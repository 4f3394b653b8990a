import Wirelog.Proofs.TableLaws
import Wirelog.Resolution.Book

/-! What is found in a book after a change of it. A lookup that came to addresses takes the place of
what was remembered of its name; everything else can only make a book forget. -/
namespace Wirelog.BookLaws
open Resolution TableLaws

variable {b : Book} {name : String} {e : Entry}

/-- What holds of every book: each name stands once, and where nothing counts nothing stands. -/
structure Tidy (b : Book) : Prop where
  distinct : (b.entries.map Prod.fst).Nodup
  idle : b.lifetime = 0 → b.entries = []

theorem tidy_blank (lifetime : Time.Span) : Tidy { lifetime } :=
  ⟨List.nodup_nil, fun _ => rfl⟩

theorem nothing_found (tidy : Tidy b) (none : b.lifetime = 0) (name : String) :
    b.find? name = .none := by
  rw [Book.find?, tidy.idle none]
  rfl

/-- Whether a lookup came to addresses. -/
def succeeded : Lookup → Bool
  | .found (_ :: _) => true
  | .found [] | .failed _ => false

/-! ## Books stay tidy -/

private theorem tidy_filter (keep : String × Entry → Bool) (tidy : Tidy b) :
    Tidy { b with entries := b.entries.filter keep } :=
  ⟨nodup_keys_filter keep tidy.distinct, fun none => by simp [tidy.idle none]⟩

theorem tidy_forget (host : String) (tidy : Tidy b) : Tidy (b.forget host) :=
  tidy_filter _ tidy

theorem tidy_sweep (now : Time.Span) (tidy : Tidy b) : Tidy (b.sweep now) :=
  tidy_filter _ tidy

theorem tidy_clear (b : Book) : Tidy b.clear :=
  tidy_blank b.lifetime

theorem tidy_setLifetime (lifetime : Time.Span) (tidy : Tidy b) :
    Tidy (b.setLifetime lifetime) := by
  rw [Book.setLifetime]
  split
  · exact tidy_blank 0
  · exact ⟨tidy.distinct, fun none => absurd none ‹_›⟩

theorem tidy_accept (now : Time.Span) (host : String) (port : Nat) (found : Lookup)
    (tidy : Tidy b) : Tidy (b.accept now host port found).1 := by
  cases found with
  | failed reason => exact tidy
  | found addresses =>
    cases addresses with
    | nil => exact tidy
    | cons first rest =>
      simp only [Book.accept, Book.remember]
      split
      · exact tidy
      · exact ⟨nodup_keys_put _ _ tidy.distinct, fun none => absurd none ‹_›⟩

/-! ## What is found -/

theorem find_forget (host : String) :
    (b.forget host).find? name = some e ↔ b.find? name = some e ∧ keyOf host ≠ name := by
  simp only [Book.find?, Book.forget, find_drop]
  split <;> simp [*]

theorem find_clear (b : Book) (name : String) : b.clear.find? name = none :=
  rfl

theorem find_setLifetime (lifetime : Time.Span) :
    (b.setLifetime lifetime).find? name = some e ↔ b.find? name = some e ∧ lifetime ≠ 0 := by
  rw [Book.setLifetime]
  split
  · rename_i zero
    simp [zero, Book.find?]
  · rename_i lasting
    simp [lasting, Book.find?]

theorem find_sweep (tidy : Tidy b) (now : Time.Span) :
    (b.sweep now).find? name = some e ↔
      b.find? name = some e ∧ e.isFresh b.lifetime now = true := by
  simp only [Book.find?, Book.sweep, find_filter _ tidy.distinct, Option.map_eq_some_iff,
    Option.filter_eq_some_iff]
  constructor
  · rintro ⟨pair, ⟨found, fresh⟩, rfl⟩
    exact ⟨⟨pair, found, rfl⟩, fresh⟩
  · rintro ⟨⟨pair, found, rfl⟩, fresh⟩
    exact ⟨pair, ⟨found, fresh⟩, rfl⟩

theorem find_remember (lasting : b.lifetime ≠ 0) (now : Time.Span) (key name : String)
    (addresses : List Net.Ip) :
    (b.remember now key addresses).find? name =
      if key = name then some ⟨addresses, now⟩ else b.find? name := by
  simp only [Book.find?, Book.remember, lasting, ↓reduceIte, find_put]
  split <;> rfl

/-- After a lookup, its name stands for the addresses that it came to, if it came to any and names
are remembered at all; other names stand as before. -/
theorem find_accept (tidy : Tidy b) (now : Time.Span) (host : String) (port : Nat)
    (found : Lookup) :
    (b.accept now host port found).1.find? name = some e ↔
      (keyOf host = name ∧ found = .found e.addresses ∧ e.addresses ≠ [] ∧ b.lifetime ≠ 0 ∧
        e.since = now) ∨
      b.find? name = some e ∧ ¬ (keyOf host = name ∧ succeeded found) := by
  obtain ⟨addresses, since⟩ := e
  cases found with
  | failed reason => simp [Book.accept, succeeded]
  | found row =>
    cases row with
    | nil =>
      simp only [Book.accept, succeeded, Bool.false_eq_true, and_false, not_false_eq_true, and_true,
        Lookup.found.injEq]
      refine ⟨.inr, ?_⟩
      rintro (⟨-, rfl, some, -⟩ | stood)
      · exact absurd rfl some
      · exact stood
    | cons first rest =>
      simp only [Book.accept, succeeded, and_true]
      by_cases none : b.lifetime = 0
      · simp [Book.remember, none, nothing_found tidy none]
      · rw [find_remember none]
        split
        · rename_i same
          simp only [same, none, Option.some.injEq, Entry.mk.injEq, Lookup.found.injEq, true_and,
            not_true_eq_false, and_false, or_false, ne_eq, not_false_eq_true]
          refine and_congr_right fun row => ?_
          simp [← row, eq_comm]
        · rename_i other
          simp [other]

/-! ## What is answered -/

theorem fresh_iff (e : Entry) (lifetime now : Time.Span) :
    e.isFresh lifetime now ↔ 0 < lifetime ∧ now < e.since + lifetime := by
  have elapsed (since lifetime now : Nat) :
      0 < lifetime ∧ now - since < lifetime ↔ 0 < lifetime ∧ now < since + lifetime := by
    omega
  simpa only [Entry.isFresh, decide_eq_true_eq] using elapsed e.since lifetime now

/-- A host that is no address is answered with what is remembered of its name and counts. -/
theorem answer_named {host : String} (named : literal? host = none) (now : Time.Span)
    (port : Nat) (r : Resolved) :
    b.answer? now host port = some r ↔
      ∃ e, b.find? (keyOf host) = some e ∧ e.isFresh b.lifetime now = true ∧
        r = { addresses := e.addresses, port, cached := true } := by
  simp only [Book.answer?, named, Book.remembered?, Option.map_eq_some_iff,
    Option.filter_eq_some_iff]
  constructor
  · rintro ⟨_, ⟨e, ⟨found, fresh⟩, rfl⟩, rfl⟩
    exact ⟨e, found, fresh, rfl⟩
  · rintro ⟨e, found, fresh, rfl⟩
    exact ⟨_, ⟨e, ⟨found, fresh⟩, rfl⟩, rfl⟩

/-- Whether a host is answered has nothing to do with the port. -/
theorem answer_any_port (now : Time.Span) (host : String) (port other : Nat) :
    (b.answer? now host port).isSome = (b.answer? now host other).isSome := by
  rw [Book.answer?, Book.answer?]
  cases literal? host with
  | some ip => rfl
  | none => simp only [Option.isSome_map]

end Wirelog.BookLaws
