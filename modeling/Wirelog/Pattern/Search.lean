import Wirelog.Pattern.Parser
/-!
Finding matches with their captures. A pattern is laid out as a machine whose forks prefer one way;
the first match is the one that starts first and, among those, the one that the preferences lead to.
The machine never takes the same instruction at the same place twice: what failed once fails again,
since preferences do not depend on what was captured. So a search takes no more steps than there are
pairs of an instruction and a place.
-/
namespace Wirelog.Pattern

/-- An instruction. Instructions are numbered by their position in the machine. -/
inductive Instr where
  /-- Take a character of a class, then go on. -/
  | take (cls : CharClass) (next : Nat)
  /-- Go on under a condition. -/
  | look (l : Look) (next : Nat)
  /-- Go on in one way, or else in another. -/
  | fork (first second : Nat)
  /-- Note the place in a slot, then go on. -/
  | note (slot next : Nat)
  /-- The end of a match. -/
  | accept
deriving Inhabited

/-- A machine under construction, from its end towards its start. -/
abbrev Machine := Array Instr

/-- Adds an instruction: its number and the machine. -/
def Machine.add (m : Machine) (i : Instr) : Nat × Machine :=
  (m.size, m.push i)

/-- A fork whose preferred way is to go round again, or to leave. -/
def forkTo (greedy : Bool) (again leave : Nat) : Instr :=
  if greedy then .fork again leave else .fork leave again

/-- Adds a number of copies of a part one after another in front of an instruction. -/
def copies (part : Nat → Machine → Nat × Machine) : Nat → Nat → Machine → Nat × Machine
  | 0, next, m => (next, m)
  | n + 1, next, m =>
    let (next, m) := part next m
    copies part n next m

/-- Adds a number of copies of a part, each of which may be left out together with those after
it. -/
def optionalCopies (greedy : Bool) (part : Nat → Machine → Nat × Machine) (leave : Nat) :
    Nat → Machine → Nat × Machine
  | 0, m => (leave, m)
  | n + 1, m =>
    let (next, m) := optionalCopies greedy part leave n m
    let (start, m) := part next m
    m.add (forkTo greedy start leave)

/-- Adds a part that goes round at least once. -/
def loopOnce (greedy : Bool) (part : Nat → Machine → Nat × Machine) (leave : Nat) (m : Machine) :
    Nat × Machine :=
  let (turn, m) := m.add .accept
  let (start, m) := part turn m
  (start, m.set! turn (forkTo greedy start leave))

/-- Adds the instructions for a pattern in front of an instruction: the number of the first one and
the machine. -/
def layOut : Node → Nat → Machine → Nat × Machine
  | .empty, next, m => (next, m)
  | .one cls, next, m => m.add (.take cls next)
  | .look l, next, m => m.add (.look l next)
  | .seq a b, next, m =>
    let (next, m) := layOut b next m
    layOut a next m
  | .alt a b, next, m =>
    let (second, m) := layOut b next m
    let (first, m) := layOut a next m
    m.add (.fork first second)
  | .times low high greedy a, next, m =>
    let flat := a.isWidthless
    let low := if flat then min low 1 else low
    let high := if flat then some (min (high.getD 1) 1) else high
    match high with
    | some high =>
      let (next, m) := optionalCopies greedy (layOut a) next (high - low) m
      copies (layOut a) low next m
    | none =>
      match low with
      | 0 =>
        if a.isWide then
          let (turn, m) := m.add .accept
          let (start, m) := layOut a turn m
          (turn, m.set! turn (forkTo greedy start next))
        else
          let (start, m) := loopOnce greedy (layOut a) next m
          m.add (forkTo greedy start next)
      | low + 1 =>
        let (start, m) := loopOnce greedy (layOut a) next m
        copies (layOut a) low start m
  | .group number a, next, m =>
    let (next, m) := m.add (.note (2 * number + 1) next)
    let (next, m) := layOut a next m
    m.add (.note (2 * number) next)

/-- A pattern ready for searching. -/
structure Searcher where
  /-- The instructions. -/
  machine : Machine
  /-- The first instruction. -/
  entry : Nat
  /-- How many groups are captured. -/
  captures : Nat
  /-- The named groups with their numbers. -/
  names : List (String × Nat)

/-- Lays out a pattern. -/
def Searcher.of (p : Parsed) : Searcher :=
  let (entry, machine) := layOut (.group 0 p.node) 0 #[.accept]
  ⟨machine, entry, p.captures, p.names⟩

/-- The places noted in the slots. Slots `2 n` and `2 n + 1` hold the ends of group `n`. -/
abbrev Slots := Array (Option Nat)

/-- A way that has still to be tried. -/
structure Job where
  /-- The instruction. -/
  pc : Nat
  /-- The place. -/
  place : Nat
  /-- What was noted on the way there. -/
  slots : Slots

/-- Tries the ways of a stack, first one first. `tried` marks pairs of an instruction and a place;
every round marks one or takes one from the stack, which `fuel` bounds. -/
def tryJobs (machine : Machine) (t : Chars) :
    Nat → List Job → ByteArray → Option Slots × ByteArray
  | 0, _, tried => (none, tried)
  | _, [], tried => (none, tried)
  | fuel + 1, job :: jobs, tried =>
    let mark := job.pc * (t.size + 1) + job.place
    if tried.get! mark == 1 then tryJobs machine t fuel jobs tried
    else
      let tried := tried.set! mark 1
      match machine[job.pc]? with
      | none => tryJobs machine t fuel jobs tried
      | some (.take cls next) =>
        if (t[job.place]?).any cls.mem then
          tryJobs machine t fuel ({ job with pc := next, place := job.place + 1 } :: jobs) tried
        else tryJobs machine t fuel jobs tried
      | some (.look l next) =>
        if l.holds t job.place then tryJobs machine t fuel ({ job with pc := next } :: jobs) tried
        else tryJobs machine t fuel jobs tried
      | some (.fork first second) =>
        tryJobs machine t fuel ({ job with pc := first } :: { job with pc := second } :: jobs) tried
      | some (.note slot next) =>
        let job := { job with pc := next, slots := job.slots.set! slot (some job.place) }
        tryJobs machine t fuel (job :: jobs) tried
      | some .accept => (some job.slots, tried)

namespace Searcher

/-- Tries to match at a place and at those after it. `count` is the number of places left. -/
def findFrom (s : Searcher) (t : Chars) : Nat → Nat → ByteArray → Option Slots
  | 0, _, _ => none
  | count + 1, place, tried =>
    let empty : Slots := Array.replicate (2 * (s.captures + 1)) none
    let fuel := 2 * s.machine.size * (t.size + 1) + 2
    match tryJobs s.machine t fuel [⟨s.entry, place, empty⟩] tried with
    | (some slots, _) => some slots
    | (none, tried) => s.findFrom t count (place + 1) tried

/-- The first match at or after a place. -/
def find? (s : Searcher) (t : Chars) (place : Nat) : Option Slots :=
  s.findFrom t (t.size + 1 - place) place
    (ByteArray.mk (Array.replicate (s.machine.size * (t.size + 1)) 0))

/-- The part of a text that a group captured. -/
def captured (t : Chars) (slots : Slots) (number : Nat) : List Char :=
  match slots[2 * number]?, slots[2 * number + 1]? with
  | some (some i), some (some j) => (t.extract i j).toList
  | _, _ => []

end Searcher
end Wirelog.Pattern
