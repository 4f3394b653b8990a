import Wirelog.Proofs.BookLaws
import Wirelog.Proofs.LiteralHosts
import Wirelog.Proofs.Standing
import Wirelog.Resolution.Session

/-! Which lookup an answer goes back to. A book has entries and no memory of how they came into it;
the calls before say that, and an entry is there just when the latest lookup of its name that came
to addresses brought it and nothing lost it since. So the calls and the time tell which resolutions
need no lookup, and what these answer. -/
namespace Wirelog.RememberedNames
open Resolution BookLaws LiteralHosts Standing

variable {s : Session} {host name : String} {port : Nat} {took : Time.Span} {found : Lookup}
  {e : Entry}

/-! ## One call -/

/-- That a call looks a name up and what it finds is remembered. -/
def Learns (s : Session) (name : String) (e : Entry) : Call → Prop
  | .resolve host _ took found =>
    keyOf host = name ∧ s.asks host ∧ found = .found e.addresses ∧ e.addresses ≠ [] ∧
      s.book.lifetime ≠ 0 ∧ e.since = s.now + took
  | .setLifetime _ | .forget _ | .clear | .sweep | .pass _ => False

/-- That a call loses what is remembered of a name: a later lookup takes its place, it is forgotten,
or it is swept out because it has come to count no more. -/
def Loses (s : Session) (name : String) (e : Entry) : Call → Prop
  | .resolve host _ _ found => keyOf host = name ∧ s.asks host ∧ succeeded found
  | .setLifetime lifetime => lifetime = 0
  | .forget host => keyOf host = name
  | .clear => True
  | .sweep => e.isFresh s.book.lifetime s.now = false
  | .pass _ => False

theorem asks_iff (port : Nat) : s.asks host ↔ s.book.answer? s.now host port = none := by
  rw [← Option.isNone_iff_eq_none, Session.asks, ← Option.not_isSome, ← Option.not_isSome,
    answer_any_port s.now host 0 port]

/-- A host that is not looked up changes nothing, whatever a lookup would have come to. -/
theorem step_answered {r : Resolved} (answer : s.book.answer? s.now host port = some r) :
    s.step (.resolve host port took found) = (s, some { lookup := none, result := .ok r }) := by
  have spared : s.asks host = false := by
    rw [Bool.eq_false_iff, ne_eq, asks_iff port, answer]
    exact Option.some_ne_none r
  simp [Session.step, spared, Book.resolve, answer]

theorem step_asking (asks : s.asks host) :
    s.step (.resolve host port took found) =
      ({ book := (s.book.accept (s.now + took) host port found).1, now := s.now + took },
        some { lookup := some found
               result := (s.book.accept (s.now + took) host port found).2 }) := by
  have unanswered := (asks_iff port).mp asks
  simp [Session.step, asks, Book.resolve, unanswered]

theorem tidy_step (tidy : Tidy s.book) (call : Call) : Tidy (s.step call).1.book := by
  cases call with
  | resolve host port took found =>
    cases answer : s.book.answer? s.now host port with
    | some r => rwa [step_answered answer]
    | none =>
      rw [step_asking ((asks_iff port).mpr answer)]
      exact tidy_accept _ host port found tidy
  | setLifetime lifetime => exact tidy_setLifetime lifetime tidy
  | forget host => exact tidy_forget host tidy
  | clear => exact tidy_clear s.book
  | sweep => exact tidy_sweep s.now tidy
  | pass span => exact tidy

/-- After a call, an entry is there that the call brought, or that was there and is not lost. -/
theorem found_step (tidy : Tidy s.book) (call : Call) :
    (s.step call).1.book.find? name = some e ↔
      Learns s name e call ∨ s.book.find? name = some e ∧ ¬ Loses s name e call := by
  cases call with
  | resolve host port took found =>
    cases answer : s.book.answer? s.now host port with
    | some r =>
      have spared : ¬ s.asks host := by
        rw [asks_iff port, answer]
        exact Option.some_ne_none r
      simp [step_answered answer, Learns, Loses, spared]
    | none =>
      have asks := (asks_iff port).mpr answer
      simp only [step_asking asks, find_accept tidy, Learns, Loses, asks, true_and]
  | setLifetime lifetime => simp [Session.step, find_setLifetime, Learns, Loses]
  | forget other => simp [Session.step, find_forget, Learns, Loses]
  | clear => simp [Session.step, find_clear, Learns, Loses]
  | sweep => simp [Session.step, find_sweep tidy, Learns, Loses]
  | pass span => simp [Session.step, Learns, Loses]

/-! ## Runs -/

/-- A session in which nothing is remembered yet. -/
def opened (lifetime now : Time.Span) : Session :=
  { book := { lifetime }, now }

/-- That a lookup brought an entry of a name and nothing lost it since. -/
def Behind (first : Session) (past : List Call) (name : String) (e : Entry) : Prop :=
  Stands (fun before call => Learns (first.run before) name e call)
    (fun before call => Loses (first.run before) name e call) past

theorem run_concat (first : Session) (past : List Call) (call : Call) :
    first.run (past ++ [call]) = ((first.run past).step call).1 := by
  simp only [Session.run, List.foldl_append, List.foldl_cons, List.foldl_nil]

theorem tidy_run (lifetime now : Time.Span) (past : List Call) :
    Tidy ((opened lifetime now).run past).book := by
  induction past using List.reverseRecOn with
  | nil => exact tidy_blank lifetime
  | append_singleton past call ih =>
    rw [run_concat]
    exact tidy_step ih call

/-- An entry is there just when a lookup is behind it. -/
theorem found_iff_behind (lifetime now : Time.Span) (past : List Call) (name : String)
    (e : Entry) :
    ((opened lifetime now).run past).book.find? name = some e ↔
      Behind (opened lifetime now) past name e := by
  refine iff_stands (P := fun past => ((opened lifetime now).run past).book.find? name = some e)
    nofun (fun past call => ?_) past
  rw [run_concat]
  exact found_step (tidy_run lifetime now past) call

/-! ## Resolutions -/

end Wirelog.RememberedNames
