import Wirelog.Proofs.CreditBalance

/-! What the limits do to the octets of a stream: nothing, but for delays and smaller portions. Seen
from its caller, a stream in a crowd is the stream below it, asked for less than the caller wanted
and not asked at all while a grant is not due. The polls of other streams, changes of the limits and
the buckets decide only when and how narrowly it is asked. -/
namespace Wirelog.StreamTransparency
open Pacing Overlap GrantLaws CreditBalance

variable {σ : Type} (m : Machine σ)

/-! ## One stream in a crowd -/

/-- What becomes of the polls of a stream whose stream below is in a state: each waits, or hands a
window to the stream below and passes its answer on. -/
inductive Mediated : σ → List Contact → Prop where
  /-- It is not polled again. -/
  | done (x : σ) : Mediated x []
  /-- A poll waits, and the stream below is left alone. -/
  | waits {x : σ} {t : Contact} {rest : List Contact} (alone : t.handed = none)
      (told : t.told = unanswered t.ask) (later : Mediated x rest) : Mediated x (t :: rest)
  /-- A poll asks the stream below for so many octets, some if any are wanted. -/
  | passes {x : σ} {t : Contact} {rest : List Contact} {n : Nat}
      (handed : t.handed = some (t.ask.narrowed n)) (most : n ≤ t.ask.size)
      (least : t.ask.size ≠ 0 → 1 ≤ n) (told : t.told = (m.serve x (t.ask.narrowed n)).1)
      (later : Mediated (m.serve x (t.ask.narrowed n)).2 rest) : Mediated x (t :: rest)

variable {m}

/-- A poll comes before the polls after it. -/
theorem mediated_cons {x y : Stack σ} {l after : Line} {now : Rat} {ask : Ask} {t : Contact}
    {rest : List Contact} (polled : Polled m x l now ask y after t)
    (later : Mediated m y.below rest) : Mediated m x.below (t :: rest) := by
  obtain rfl := polled.asked
  have told := polled.told
  have below := polled.below
  cases asked : x.top.handed? l now t.ask with
  | none =>
    rw [asked, Option.elim_none] at told below
    rw [below] at later
    exact .waits (polled.handed.trans asked) told later
  | some inner =>
    obtain ⟨n, rfl, most, least⟩ := polled.narrowed inner asked
    rw [asked, Option.elim_some] at told below
    rw [below] at later
    exact .passes (polled.handed.trans asked) most least told later

variable (m)

/-- Whether an event is about a stream. -/
def Concerns (k : Nat) : Event σ → Prop
  | .drop j | .poll j _ _ => j = k
  | .come _ | .limit _ => False

/-- An event that is not about a stream leaves it as it is, and makes no contact with it. -/
theorem stack_after_other (c : Crowd σ) {k : Nat} {stack : Option (Stack σ)}
    (found : c.streams[k]? = some stack) {e : Event σ} (other : ¬ Concerns k e) :
    (c.after m e).streams[k]? = some stack ∧ c.contact? m k e = none := by
  cases e with
  | come below =>
    have bound := (List.getElem?_eq_some_iff.mp found).1
    exact ⟨by rw [Crowd.after, List.getElem?_append_left bound, found], rfl⟩
  | drop j => exact ⟨by rw [Crowd.after, List.getElem?_set_ne other, found], rfl⟩
  | limit change =>
    refine ⟨?_, rfl⟩
    simp only [Crowd.after]
    cases c.line.limits.update change <;> exact found
  | poll j now ask =>
    refine ⟨?_, if_neg other⟩
    cases live : c.live? j with
    | none => rw [after_poll_gone m c live, found]
    | some x => rw [after_poll m c live, List.getElem?_set_ne other, found]

/-- A stream that went has no polls, for its number is never given again. -/
theorem contacts_of_gone (c : Crowd σ) {k : Nat} (gone : c.streams[k]? = some none)
    (events : List (Event σ)) : c.contacts m k events = [] := by
  induction events generalizing c with
  | nil => rfl
  | cons e rest ih =>
    obtain ⟨still, silent⟩ : (c.after m e).streams[k]? = some none ∧ c.contact? m k e = none := by
      by_cases other : Concerns k e
      · have nobody : c.live? k = none := by rw [Crowd.live?, gone, Option.join_some]
        cases e with
        | come below => exact absurd other id
        | limit change => exact absurd other id
        | drop j =>
          cases other
          exact ⟨List.getElem?_set_self (List.getElem?_eq_some_iff.mp gone).1, rfl⟩
        | poll j now ask =>
          cases other
          refine ⟨by rw [after_poll_gone m c nobody, gone], ?_⟩
          simp only [Crowd.contact?, nobody, Option.map_none, ↓reduceIte]
      · exact stack_after_other m c gone other
    rw [Crowd.contacts, silent, ih _ still]
    rfl

/-- The polls of a stream go to the stream below it, whatever else happens in the crowd. -/
theorem contacts_are_mediated (c : Crowd σ) {k : Nat} {x : Stack σ}
    (there : c.streams[k]? = some (some x)) (events : List (Event σ)) :
    Mediated m x.below (c.contacts m k events) := by
  induction events generalizing c x with
  | nil => exact .done _
  | cons e rest ih =>
    by_cases other : Concerns k e
    · have bound := (List.getElem?_eq_some_iff.mp there).1
      cases e with
      | come below => exact absurd other id
      | limit change => exact absurd other id
      | drop j =>
        cases other
        have gone : (c.after m (.drop k)).streams[k]? = some none := List.getElem?_set_self bound
        rw [Crowd.contacts, contacts_of_gone m _ gone]
        exact .done _
      | poll j now ask =>
        cases other
        have live := (live_iff c).mpr there
        have polled := stack_polled m x c.line now ask
        have next : (c.after m (.poll k now ask)).streams[k]? =
            some (some (x.poll m c.line now ask).1) := by
          rw [after_poll m c live, List.getElem?_set_self bound]
        have contact : c.contact? m k (.poll k now ask) =
            some (x.poll m c.line now ask).2.2 := by
          simp only [Crowd.contact?, live, Option.map_some, ↓reduceIte]
        rw [Crowd.contacts, contact]
        exact mediated_cons polled (ih _ next)
    · obtain ⟨same, silent⟩ := stack_after_other m c there other
      rw [Crowd.contacts, silent]
      exact ih _ same

/-! ## The octets -/

/-- The octets that an answer gives. -/
def octetsRead (said : Ask × Answer) : List UInt8 :=
  match said.2 with
  | .read (.ready part) => part
  | _ => []

/-- The octets that an answer takes, from the front of what was offered. -/
def octetsWritten : Ask × Answer → List UInt8
  | (.write data, .write (.ready n)) => data.take n
  | _ => []

/-- What the caller asked and was told. -/
def callerSide (contacts : List Contact) : List (Ask × Answer) :=
  contacts.map fun t => (t.ask, t.told)

/-- What the stream below was asked, and its answers when it is asked just this. -/
def innerSide (x : σ) (contacts : List Contact) : List (Ask × Answer) :=
  m.dialogue x (contacts.filterMap (·.handed))

/-- A stream that changes nothing but times and portions. -/
structure Transparent (x : σ) (contacts : List Contact) : Prop where
  /-- The stream below is asked what the caller asks, for so many octets: no more than the caller
  wants, and at least one, unless the caller wants none. -/
  window : ∀ t ∈ contacts, ∀ inner, t.handed = some inner →
    ∃ n, inner = t.ask.narrowed n ∧ n ≤ t.ask.size ∧ (t.ask.size ≠ 0 → 1 ≤ n)
  /-- Polls that wait aside, the caller is told what the stream below answers, in the same order;
  so errors and empty reads are all from there. -/
  answers : ((callerSide contacts).map Prod.snd).filter (!·.isPending) =
    ((innerSide m x contacts).map Prod.snd).filter (!·.isPending)
  /-- The caller gets the octets that the stream below gives. -/
  read : (callerSide contacts).flatMap octetsRead = (innerSide m x contacts).flatMap octetsRead
  /-- The stream below takes the octets that the caller is told to be written. -/
  written : (callerSide contacts).flatMap octetsWritten =
    (innerSide m x contacts).flatMap octetsWritten

theorem isPending_unanswered (ask : Ask) : (unanswered ask).isPending = true := by
  cases ask <;> rfl

theorem read_unanswered (ask other : Ask) : octetsRead (other, unanswered ask) = [] := by
  cases ask <;> rfl

theorem written_unanswered (ask other : Ask) : octetsWritten (other, unanswered ask) = [] := by
  cases ask <;> cases other <;> rfl

/-- What a stream takes of a front, it takes of the whole. -/
theorem written_narrowed (x : σ) (ask : Ask) (n : Nat) :
    octetsWritten (ask, (m.serve x (ask.narrowed n)).1) =
      octetsWritten (ask.narrowed n, (m.serve x (ask.narrowed n)).1) := by
  cases ask with
  | read room => rfl
  | write data =>
    simp only [Ask.narrowed, Machine.serve]
    cases taken : (m.write x (data.take n)).1 with
    | pending => rfl
    | failed reason => rfl
    | ready k =>
      have fits := Nat.le_trans (m.write_fits _ _ _ taken) (List.length_take_le n data)
      simp only [octetsWritten, List.take_take, Nat.min_eq_left fits]

section

variable {x : σ} {t : Contact} {rest : List Contact}

theorem transparent_waits (alone : t.handed = none) (told : t.told = unanswered t.ask)
    (later : Transparent m x rest) : Transparent m x (t :: rest) := by
  have caller : callerSide (t :: rest) = (t.ask, unanswered t.ask) :: callerSide rest := by
    rw [callerSide, List.map_cons, told]
    rfl
  have inner : innerSide m x (t :: rest) = innerSide m x rest := by
    rw [innerSide, List.filterMap_cons_none alone]
    rfl
  constructor
  case window =>
    intro u member asked handed
    rcases List.mem_cons.mp member with rfl | member
    · rw [alone] at handed
      cases handed
    · exact later.window u member asked handed
  case answers =>
    rw [caller, inner, ← later.answers, List.map_cons, List.filter_cons_of_neg]
    simp only [isPending_unanswered, Bool.not_true, Bool.false_eq_true, not_false_eq_true]
  case read => rw [caller, inner, ← later.read, List.flatMap_cons, read_unanswered, List.nil_append]
  case written =>
    rw [caller, inner, ← later.written, List.flatMap_cons, written_unanswered, List.nil_append]

theorem transparent_passes {n : Nat} (handed : t.handed = some (t.ask.narrowed n))
    (most : n ≤ t.ask.size) (least : t.ask.size ≠ 0 → 1 ≤ n)
    (told : t.told = (m.serve x (t.ask.narrowed n)).1)
    (later : Transparent m (m.serve x (t.ask.narrowed n)).2 rest) :
    Transparent m x (t :: rest) := by
  have caller : callerSide (t :: rest) =
      (t.ask, (m.serve x (t.ask.narrowed n)).1) :: callerSide rest := by
    rw [callerSide, List.map_cons, told]
    rfl
  have inner : innerSide m x (t :: rest) = (t.ask.narrowed n, (m.serve x (t.ask.narrowed n)).1) ::
      innerSide m (m.serve x (t.ask.narrowed n)).2 rest := by
    rw [innerSide, List.filterMap_cons_some handed]
    rfl
  constructor
  case window =>
    intro u member asked found
    rcases List.mem_cons.mp member with rfl | member
    · rw [handed] at found
      cases found
      exact ⟨n, rfl, most, least⟩
    · exact later.window u member asked found
  case answers =>
    rw [caller, inner, List.map_cons, List.map_cons, List.filter_cons, List.filter_cons,
      later.answers]
  case read =>
    rw [caller, inner, List.flatMap_cons, List.flatMap_cons, later.read]
    rfl
  case written =>
    rw [caller, inner, List.flatMap_cons, List.flatMap_cons, later.written, written_narrowed]

end

theorem transparent_of_mediated {x : σ} {contacts : List Contact}
    (mediated : Mediated m x contacts) : Transparent m x contacts := by
  induction mediated with
  | done x => exact ⟨nofun, rfl, rfl, rfl⟩
  | waits alone told _ ih => exact transparent_waits m alone told ih
  | passes handed most least told _ ih => exact transparent_passes m handed most least told ih

/-- A stream that comes to a crowd is transparent from then on, whatever its stream below is,
however it is polled, and whatever happens to the limits and to the other streams in between. -/
theorem stream_is_transparent (c : Crowd σ) (x : σ) (events : List (Event σ)) :
    Transparent m x ((c.after m (.come x)).contacts m c.streams.length events) := by
  refine transparent_of_mediated m (contacts_are_mediated m _ (x := { below := x }) ?_ events)
  rw [Crowd.after, List.getElem?_concat_length]

end Wirelog.StreamTransparency
