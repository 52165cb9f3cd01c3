import Countersign.Draft.Basic
import Countersign.Text.Blank

namespace Countersign.Draft

open Text Wire

def fileContent (data : Bytes) : Bytes := utf8 (Hex.ofBytes data)

def readFileContent (content : Bytes) : Except Fault Bytes :=
  match utf8? content with
  | none => .error .notText
  | some text =>
    match Hex.decode (strip text.toList) with
    | none => .error (.malformed .notHex)
    | some data => .ok data

def ofFileContent (chain : Chain) (content : Bytes) (policy : RetryPolicy) : Except Fault Draft := do
  ofBytes chain (← readFileContent content) policy

def ofFileContentIn (room : Nat) (chain : Chain) (content : Bytes) (policy : RetryPolicy) : Except Fault Draft := do
  ofBytesIn room chain (← readFileContent content) policy

end Countersign.Draft
