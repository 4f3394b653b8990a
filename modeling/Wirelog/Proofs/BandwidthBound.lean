import Mathlib.Algebra.Order.Field.Rat
import Mathlib.Tactic.Linarith
import Mathlib.Tactic.Ring
import Wirelog.Pacing.Overlap

/-! How long a bucket makes its callers wait. Each call moves the credit by what it reserves or
gives back and by what has grown since, unless the burst cuts it off. So the credit after any calls
is the least of what they leave of the credit at the start and of what each reservation among them
leaves of a full burst, and the wait is as long as it takes to pay this off. -/
namespace Wirelog.BandwidthBound
open Pacing Overlap

variable {rate : Nat}

/-- A call of one rate; to give octets back takes none. -/
def AtRate (rate : Nat) : Call → Prop
  | .reserve _ _ r => r = rate
  | .refund _ => True

/-! ## One call -/

theorem credit_at (b : Bucket) (now rate : Rat) :
    b.creditAt now rate = min (b.credit + (now - b.last) * rate) (rate * burst) := by
  simp only [Bucket.creditAt, min_def]

theorem credit_reserve (positive : 1 ≤ rate) (b : Bucket) (now : Rat) (size : Nat) :
    (b.reserve now size rate).1 =
      { credit := min (b.credit + (now - b.last) * rate) (rate * burst) - size, last := now } := by
  simp only [Bucket.reserve, credit_at, Nat.max_eq_left positive]

/-- A call leaves no more credit than it finds, grows and moves. -/
theorem credit_call_le (positive : 1 ≤ rate) {call : Call} (fixed : AtRate rate call) (b : Bucket) :
    (call.apply b).credit ≤ b.credit + rate * ((call.apply b).last - b.last) - call.net := by
  cases call with
  | reserve now size r =>
    cases fixed
    have cut := min_le_left (b.credit + (now - b.last) * rate) (rate * burst)
    simp only [Call.apply, credit_reserve positive, Call.net, Int.cast_natCast]
    linarith
  | refund size =>
    simp only [Call.apply, Bucket.refund, Call.net, Int.cast_neg, Int.cast_natCast]
    linarith

/-- A reservation leaves no more than it leaves of a full burst. -/
theorem credit_reserve_le (positive : 1 ≤ rate) (b : Bucket) (now : Rat) (size : Nat) :
    (b.reserve now size rate).1.credit ≤ rate * burst - size := by
  have cut := min_le_right (b.credit + (now - b.last) * rate) (rate * burst)
  rw [credit_reserve positive]
  linarith

/-- Unless a call is a reservation that the burst cuts off, no credit is lost. -/
theorem credit_call_cases (positive : 1 ≤ rate) {call : Call} (fixed : AtRate rate call)
    (b : Bucket) :
    (call.apply b).credit = b.credit + rate * ((call.apply b).last - b.last) - call.net ∨
      ∃ now size, call = .reserve now size rate ∧
        (call.apply b).credit = rate * burst - size ∧ (call.apply b).last = now := by
  cases call with
  | reserve now size r =>
    cases fixed
    simp only [Call.apply, credit_reserve positive, Call.net, Int.cast_natCast]
    rcases min_choice (b.credit + (now - b.last) * rate) (rate * burst) with whole | cut
    · left
      rw [whole]
      linarith
    · exact .inr ⟨now, size, rfl, by rw [cut], rfl⟩
  | refund size =>
    left
    simp only [Call.apply, Bucket.refund, Call.net, Int.cast_neg, Int.cast_natCast]
    linarith

theorem wait_nonneg (b : Bucket) (now : Rat) (size rate : Nat) :
    0 ≤ (b.reserve now size rate).2 := by
  simp only [Bucket.reserve]
  split
  · exact le_rfl
  · rename_i debt
    exact div_nonneg (by linarith) (Nat.cast_nonneg _)

/-- The octets of a reservation may be sent at a moment just if the debt that it leaves is paid off
by then. -/
theorem due_le_iff (positive : 1 ≤ rate) (b : Bucket) {now moment : Rat} (later : now ≤ moment)
    (size : Nat) :
    now + (b.reserve now size rate).2 ≤ moment ↔
      -(b.reserve now size rate).1.credit ≤ rate * (moment - now) := by
  have rate_pos : (0 : Rat) < rate := by exact_mod_cast positive
  have wait : (b.reserve now size rate).2 =
      if 0 ≤ (b.reserve now size rate).1.credit then 0
      else -(b.reserve now size rate).1.credit / rate := by
    simp only [Bucket.reserve, Nat.max_eq_left positive]
  rw [wait]
  split
  · rename_i solvent
    have grown : 0 ≤ rate * (moment - now) := mul_nonneg rate_pos.le (by linarith)
    exact iff_of_true (by linarith) (by linarith)
  · rw [← le_sub_iff_add_le', div_le_iff₀ rate_pos, mul_comm]

/-! ## Calls in a row -/

theorem replay_append (b : Bucket) (first second : List Call) :
    replay b (first ++ second) = replay (replay b first) second :=
  List.foldl_append

/-- Calls leave no more credit than they find, grows and is moved. -/
theorem credit_replay_le (positive : 1 ≤ rate) {calls : List Call}
    (fixed : ∀ call ∈ calls, AtRate rate call) (b : Bucket) :
    (replay b calls).credit ≤
      b.credit + rate * ((replay b calls).last - b.last) - net calls := by
  induction calls generalizing b with
  | nil => simp [replay, net]
  | cons call rest ih =>
    have first := credit_call_le positive (fixed call List.mem_cons_self) b
    have others := ih (fun c member => fixed c (List.mem_cons_of_mem _ member)) (call.apply b)
    rw [net, Int.cast_add]
    change (replay (call.apply b) rest).credit ≤
      b.credit + rate * ((replay (call.apply b) rest).last - b.last) - (call.net + net rest)
    linarith

/-- Either no credit is lost, or none since the last reservation that the burst cut off. -/
theorem credit_replay_cases (positive : 1 ≤ rate) {calls : List Call}
    (fixed : ∀ call ∈ calls, AtRate rate call) (b : Bucket) :
    (replay b calls).credit = b.credit + rate * ((replay b calls).last - b.last) - net calls ∨
      ∃ (k : Nat) (moment : Rat) (size : Nat), calls[k]? = some (.reserve moment size rate) ∧
        (replay b calls).credit =
          rate * burst + rate * ((replay b calls).last - moment) - net (calls.drop k) := by
  induction calls generalizing b with
  | nil => simp [replay, net]
  | cons call rest ih =>
    rcases ih (fun c member => fixed c (List.mem_cons_of_mem _ member)) (call.apply b) with
      whole | ⟨k, moment, size, found, cut⟩
    · rcases credit_call_cases positive (fixed call List.mem_cons_self) b with
        kept | ⟨moment, size, rfl, cut, then_last⟩
      · left
        rw [net, Int.cast_add]
        change (replay (call.apply b) rest).credit =
          b.credit + rate * ((replay (call.apply b) rest).last - b.last) - (call.net + net rest)
        linarith
      · refine .inr ⟨0, moment, size, rfl, ?_⟩
        rw [List.drop_zero, net, Int.cast_add, Call.net, Int.cast_natCast]
        rw [cut, then_last] at whole
        change (replay (Call.apply b _) rest).credit =
          rate * burst + rate * ((replay (Call.apply b _) rest).last - moment) - (size + net rest)
        linarith
    · exact .inr ⟨k + 1, moment, size, found, cut⟩

/-- Calls that begin with a reservation leave no more than they leave of a full burst. -/
theorem credit_window_le (positive : 1 ≤ rate) {rest : List Call}
    (fixed : ∀ call ∈ rest, AtRate rate call) (moment : Rat) (size : Nat) (b : Bucket) :
    (replay b (.reserve moment size rate :: rest)).credit ≤
      rate * burst + rate * ((replay b (.reserve moment size rate :: rest)).last - moment) -
        net (.reserve moment size rate :: rest) := by
  have first := credit_reserve_le positive b moment size
  have others := credit_replay_le positive fixed (b.reserve moment size rate).1
  rw [net, Int.cast_add, Call.net, Int.cast_natCast]
  change (replay (b.reserve moment size rate).1 rest).credit ≤
    rate * burst + rate * ((replay (b.reserve moment size rate).1 rest).last - moment) -
      (size + net rest)
  have begun : (b.reserve moment size rate).1.last = moment := rfl
  rw [begun] at others
  linarith

/-! ## The bound -/

/-- That the octets of all calls up to the `i`-th may have been sent by a moment: what is reserved
and not given back fits into the time since the start, and for each reservation among them, what is
reserved from it on and not given back fits into the time since then and one burst. -/
structure Fits (start : Rat) (rate : Nat) (calls : List Call) (i : Nat) (moment : Rat) : Prop where
  /-- Since the start. -/
  total : net (calls.take (i + 1)) ≤ rate * (moment - start)
  /-- Since a reservation. A burst is a tenth of a second. -/
  window : ∀ k ≤ i, ∀ earlier size r, calls[k]? = some (.reserve earlier size r) →
    net ((calls.take (i + 1)).drop k) ≤ rate * (moment - earlier) + rate / 10

section

variable {start now : Rat} {calls : List Call} {i size : Nat}

private theorem replay_to (call : calls[i]? = some (.reserve now size rate)) (b : Bucket) :
    replay b (calls.take (i + 1)) = ((replay b (calls.take i)).reserve now size rate).1 := by
  rw [List.take_add_one, call, replay_append]
  rfl

private theorem fixed_take (fixed : ∀ call ∈ calls, AtRate rate call) (n : Nat) :
    ∀ call ∈ calls.take n, AtRate rate call :=
  fun call member => fixed call (List.mem_of_mem_take member)

private theorem last_to (call : calls[i]? = some (.reserve now size rate)) (b : Bucket) :
    (replay b (calls.take (i + 1))).last = now := by
  rw [replay_to call]
  rfl

/-- If the octets fit into the time until a moment, the debt that they leave is paid off by then. -/
theorem paid_of_fits (positive : 1 ≤ rate) (fixed : ∀ call ∈ calls, AtRate rate call)
    (call : calls[i]? = some (.reserve now size rate)) {moment : Rat}
    (fits : Fits start rate calls i moment) :
    -(replay (.new start) (calls.take (i + 1))).credit ≤ rate * (moment - now) := by
  rcases credit_replay_cases positive (fixed_take fixed (i + 1)) (.new start) with
    whole | ⟨k, earlier, size, found, cut⟩
  · have total := fits.total
    rw [last_to call, Bucket.credit_new, Bucket.last_new] at whole
    linarith
  · have bound : k < i + 1 := by
      by_contra outside
      rw [List.getElem?_eq_none (by simp only [List.length_take]; omega)] at found
      cases found
    rw [List.getElem?_take_of_lt bound] at found
    have window := fits.window k (by omega) earlier size rate found
    rw [last_to call, burst] at cut
    linarith

/-- What is reserved from the `k`-th call on leaves no more credit than it leaves of a burst. -/
theorem credit_from_le (positive : 1 ≤ rate) (fixed : ∀ call ∈ calls, AtRate rate call)
    (call : calls[i]? = some (.reserve now size rate)) {k : Nat} (before : k ≤ i) {earlier : Rat}
    {other : Nat} (found : calls[k]? = some (.reserve earlier other rate)) (b : Bucket) :
    (replay b (calls.take (i + 1))).credit ≤
      rate * burst + rate * (now - earlier) - net ((calls.take (i + 1)).drop k) := by
  have bound : k < (calls.take (i + 1)).length := by
    have inside := (List.getElem?_eq_some_iff.mp found).1
    rw [List.length_take]
    omega
  have head : (calls.take (i + 1))[k] = .reserve earlier other rate := by
    rw [← Option.some_inj, ← List.getElem?_eq_getElem bound, List.getElem?_take_of_lt (by omega),
      found]
  have dropped : (calls.take (i + 1)).drop k =
      .reserve earlier other rate :: (calls.take (i + 1)).drop (k + 1) := by
    rw [List.drop_eq_getElem_cons bound, head]
  have split : replay b (calls.take (i + 1)) =
      replay (replay b ((calls.take (i + 1)).take k)) ((calls.take (i + 1)).drop k) := by
    rw [← replay_append, List.take_append_drop]
  have since : ∀ call ∈ (calls.take (i + 1)).drop (k + 1), AtRate rate call :=
    fun c member => fixed_take fixed _ c (List.mem_of_mem_drop member)
  have window := credit_window_le positive since earlier other
    (replay b ((calls.take (i + 1)).take k))
  rwa [← dropped, ← split, last_to call] at window

/-- Whether the octets fit into the time until a moment is read off the credit that is left. -/
theorem fits_iff (positive : 1 ≤ rate) (fixed : ∀ call ∈ calls, AtRate rate call)
    (call : calls[i]? = some (.reserve now size rate)) (moment : Rat) :
    Fits start rate calls i moment ↔
      -(replay (.new start) (calls.take (i + 1))).credit ≤ rate * (moment - now) := by
  refine ⟨paid_of_fits positive fixed call, fun paid => ⟨?total, ?window⟩⟩
  case total =>
    have total := credit_replay_le positive (fixed_take fixed (i + 1)) (.new start)
    rw [last_to call, Bucket.credit_new, Bucket.last_new] at total
    linarith
  case window =>
    intro k before earlier other r found
    cases fixed _ (List.mem_of_getElem? found)
    have window := credit_from_le positive fixed call before found (.new start)
    rw [burst] at window
    linarith

/-- A bucket that is only called at one rate lets the octets of a reservation go at the first moment
from the call on into which they fit, together with all that went before them. -/
theorem due_is_first_fit (positive : 1 ≤ rate) (fixed : ∀ call ∈ calls, AtRate rate call)
    (call : calls[i]? = some (.reserve now size rate)) :
    IsLeast {moment | now ≤ moment ∧ Fits start rate calls i moment}
      (now + ((replay (.new start) (calls.take i)).reserve now size rate).2) := by
  have least (moment : Rat) (later : now ≤ moment) :
      Fits start rate calls i moment ↔
        now + ((replay (.new start) (calls.take i)).reserve now size rate).2 ≤ moment := by
    rw [fits_iff positive fixed call, due_le_iff positive _ later, replay_to call]
  have waits : now ≤ now + ((replay (.new start) (calls.take i)).reserve now size rate).2 :=
    le_add_of_nonneg_right (wait_nonneg ..)
  exact ⟨⟨waits, (least _ waits).mpr le_rfl⟩,
    fun moment ⟨later, fits⟩ => (least moment later).mp fits⟩

end

/-- Two streams share a bucket of 1000 octets a second. One reserves 1000 and gives 300 of them
back; when the other reserves 500 half a second later, it has to wait for all 1200. -/
theorem due_after_a_refund :
    let calls : List Call := [.reserve 0 1000 1000, .refund 300, .reserve (1 / 2) 500 1000]
    (∀ call ∈ calls, AtRate 1000 call) ∧ calls[2]? = some (.reserve (1 / 2) 500 1000) ∧
      IsLeast {moment | 1 / 2 ≤ moment ∧ Fits 0 1000 calls 2 moment} (6 / 5) := by
  intro calls
  have fixed : ∀ call ∈ calls, AtRate 1000 call := by
    simp [calls, AtRate]
  have due : (1 / 2 : Rat) +
      ((replay (.new 0) (calls.take 2)).reserve (1 / 2) 500 1000).2 = 6 / 5 := by
    decide +kernel
  have first : IsLeast {moment | 1 / 2 ≤ moment ∧ Fits 0 1000 calls 2 moment} _ :=
    due_is_first_fit (by decide) fixed rfl
  rw [due] at first
  exact ⟨fixed, rfl, first⟩

end Wirelog.BandwidthBound
