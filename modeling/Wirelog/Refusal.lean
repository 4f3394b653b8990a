import Wirelog.Text.Ascii
/-!
Refusals of control calls. Whatever is refused leaves the state as it was.
-/
namespace Wirelog

/-- `ConfigError`: why a control call is refused. -/
inductive Refusal where
  /-- A pattern cannot be read. -/
  | badPattern (pattern : String)
  /-- A status code is out of range. -/
  | badStatus (status : Nat)
  /-- A parameter has a value that it may not have. -/
  | badParameter (name reason : String)
deriving DecidableEq

/-- The wording that reports use. -/
def Refusal.message : Refusal → String
  | badPattern pattern => "invalid regex '" ++ pattern ++ "'"
  | badStatus status =>
    "invalid status code " ++ Text.natText status ++ " (expected 100..=599)"
  | badParameter name reason => "invalid value for '" ++ name ++ "': " ++ reason

end Wirelog
