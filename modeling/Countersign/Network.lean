
namespace Countersign

inductive NetworkKind
  | undefined | mainnet | fuji | localhost | devnet
deriving DecidableEq, Repr

def NetworkKind.name : NetworkKind → String
  | .undefined => "undefined"
  | .mainnet => "mainnet"
  | .fuji => "fuji"
  | .localhost => "local"
  | .devnet => "devnet"

structure Network where
  kind : NetworkKind
  id : Int
  endpoint : String
deriving DecidableEq, Repr

namespace Network

def words : List (Int × String) := [
  (1, "avax"), (2, "cascade"), (3, "denali"), (4, "everest"), (5, "fuji"), (10, "testing"), (12345, "local")]

def wordOf (id : Int) : String := (words.lookup id).getD "custom"

def word (n : Network) : String := wordOf n.id

def undefined : Network := ⟨.undefined, 0, ""⟩
def mainnet : Network := ⟨.mainnet, 1, "https://api.avax.network"⟩
def fuji : Network := ⟨.fuji, 5, "https://api.avax-test.network"⟩
def localhost : Network := ⟨.localhost, 12345, "http://127.0.0.1:9650"⟩

def devnet (id : Int) (endpoint : String) : Network := ⟨.devnet, id, endpoint⟩

def isUndefined (n : Network) : Bool := n.kind == .undefined

def ofId (id : Int) : Network :=
  ([mainnet, fuji, localhost].find? (·.id == id)).getD undefined

end Network

end Countersign
