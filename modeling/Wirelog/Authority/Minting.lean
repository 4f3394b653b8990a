import Wirelog.Authority.Basic
/-!
Requests for leaves that overlap. Each looks for a kept leaf, makes one of its own if there is none,
and then keeps whichever leaf was there first.
-/
namespace Wirelog.Authority

/-- How far a request for a leaf has come. -/
inductive Progress where
  /-- It has not looked yet. -/
  | asked
  /-- It found none and makes its own. -/
  | minting
  /-- It has made its own. -/
  | minted (leaf : Leaf)
  /-- It has its answer; `none` after a failure. -/
  | done (leaf : Option Leaf)
deriving DecidableEq

/-- A request for a leaf. -/
structure Wish where
  /-- The host name in lower case. -/
  name : String
  /-- How far it has come. -/
  progress : Progress := .asked
deriving DecidableEq

/-- An authority with the requests for leaves. -/
structure Office where
  /-- The authority. -/
  authority : Authority
  /-- The requests. -/
  wishes : List Wish := []
  /-- The number of the next leaf. -/
  fresh : Leaf := 0

/-- What may happen. -/
inductive Action where
  /-- A request comes in. -/
  | ask (domain : String)
  /-- A request goes on by one step. Making a leaf may fail. -/
  | advance (wish : Nat) (succeeds : Bool)

namespace Office

/-- `CertificateAuthority::gen_cert_for_domain`: the next step of a request. -/
def advance (o : Office) (i : Nat) (succeeds : Bool) : Office :=
  match o.wishes[i]? with
  | none => o
  | some w =>
    let moved (progress : Progress) : List Wish := o.wishes.set i { w with progress }
    match w.progress with
    | .asked =>
      match o.authority.leaf? w.name with
      | some leaf => { o with wishes := moved (.done (some leaf)) }
      | none => { o with wishes := moved .minting }
    | .minting =>
      if succeeds then { o with wishes := moved (.minted o.fresh), fresh := o.fresh + 1 }
      else { o with wishes := moved (.done none) }
    | .minted leaf =>
      let (authority, kept) := o.authority.keep w.name leaf
      { o with authority, wishes := moved (.done (some kept)) }
    | .done _ => o

/-- One action. -/
def step (o : Office) : Action → Office
  | .ask domain => { o with wishes := o.wishes ++ [{ name := Text.asciiLower domain }] }
  | .advance i succeeds => o.advance i succeeds

/-- Several actions. -/
def run (o : Office) (actions : List Action) : Office :=
  actions.foldl step o

end Office
end Wirelog.Authority
