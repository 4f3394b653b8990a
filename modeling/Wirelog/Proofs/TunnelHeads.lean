import Mathlib.Data.Nat.Find
import Wirelog.Proofs.JourneyLaws
import Wirelog.Proofs.StatusLines

/-! The answer to the asking for a tunnel. It is read octet by octet up to the first end of a head,
so what comes through the tunnel is left where it is, however the octets were delivered. Where no
head ends within the room for one, the reading fails and has taken no more than the room. -/
namespace Wirelog.TunnelHeads
open Forward StatusLines JourneyLaws

/-- That octets close with the end of a head. -/
def Closes (row : List UInt8) : Prop :=
  headEnd.reverse <:+ row

/-- A head: it closes, and no shorter front of it does. -/
structure IsHead (head : List UInt8) : Prop where
  closes : Closes head
  first : ∀ front, front <+: head → Closes front → front = head

theorem endsHead_iff (back : List UInt8) : endsHead back = true ↔ Closes back.reverse := by
  rw [endsHead, List.isPrefixOf_iff_prefix, Closes, List.reverse_suffix]

section Reading
variable (ending : Ending) {back : List UInt8} (room : Nat)

/-- Once a head is read nothing more is taken. -/
theorem takeHead_closed (closed : Closes back.reverse) (octets : List UInt8) :
    takeHead ending back room octets = (.ok back.reverse, octets) := by
  rw [takeHead.eq_def]
  exact if_pos ((endsHead_iff back).mpr closed)

section Unclosed
variable (unclosed : ¬ Closes back.reverse)
include unclosed

private theorem unended : ¬ endsHead back = true :=
  fun ended => unclosed ((endsHead_iff back).mp ended)

/-- While no head is read one more octet is taken. -/
theorem takeHead_more (b : UInt8) (rest : List UInt8) :
    takeHead ending back (room + 1) (b :: rest) = takeHead ending (b :: back) room rest := by
  rw [takeHead.eq_def]
  exact if_neg (unended unclosed)

theorem takeHead_full (octets : List UInt8) : takeHead ending back 0 octets =
    (.error (.tunnelRefused "oversized CONNECT response"), octets) := by
  rw [takeHead.eq_def]
  exact if_neg (unended unclosed)

theorem takeHead_ended : takeHead ending back (room + 1) [] = (.error ending.failure, []) := by
  rw [takeHead.eq_def]
  exact if_neg (unended unclosed)

end Unclosed

private theorem pushed (b : UInt8) (back part : List UInt8) :
    (b :: back).reverse ++ part = back.reverse ++ b :: part := by
  rw [List.reverse_cons, List.append_assoc, List.singleton_append]

/-- Behind what was read by now, a front that is the first to close is the rest of the head. -/
theorem takeHead_front {front : List UInt8} {room : Nat} (closes : Closes (back.reverse ++ front))
    (first : ∀ part, part <+: front → Closes (back.reverse ++ part) → part = front)
    (within : front.length ≤ room) (rest : List UInt8) :
    takeHead ending back room (front ++ rest) = (.ok (back.reverse ++ front), rest) := by
  induction front generalizing back room with
  | nil =>
    rw [List.append_nil] at closes ⊢
    exact takeHead_closed ending room closes rest
  | cons b front ih =>
    have unclosed : ¬ Closes back.reverse := by
      intro closed
      cases first [] List.nil_prefix (by rwa [List.append_nil])
    obtain ⟨room, rfl⟩ := Nat.exists_eq_add_of_le' within
    rw [List.cons_append, List.length_cons, ← Nat.add_assoc, takeHead_more ending _ unclosed,
      ih (by rwa [pushed]) ?first (Nat.le_add_left _ room), pushed]
    case first =>
      intro part front closed
      rw [pushed] at closed
      exact (List.cons.inj (first (b :: part) (List.cons_prefix_cons.mpr ⟨rfl, front⟩) closed)).2

/-- The failure when no head ends within the room. -/
def headless (ending : Ending) (room : Nat) (octets : List UInt8) : Failure :=
  if room ≤ octets.length then .tunnelRefused "oversized CONNECT response" else ending.failure

/-- Where no front closes within the room, all of the room is taken, or all that there is. -/
theorem takeHead_headless {octets : List UInt8} {room : Nat}
    (unclosed : ∀ part, part <+: octets → part.length ≤ room → ¬ Closes (back.reverse ++ part)) :
    takeHead ending back room octets =
      (.error (headless ending room octets), octets.drop room) := by
  have here : ¬ Closes back.reverse := by
    intro closed
    exact unclosed [] List.nil_prefix (Nat.zero_le room) (by rwa [List.append_nil])
  induction octets generalizing back room with
  | nil =>
    cases room with
    | zero => exact takeHead_full ending here []
    | succ room => exact takeHead_ended ending room here
  | cons b rest ih =>
    cases room with
    | zero => exact takeHead_full ending here (b :: rest)
    | succ room =>
      have later (part : List UInt8) (front : part <+: rest) (short : part.length ≤ room) :
          ¬ Closes ((b :: back).reverse ++ part) := by
        rw [pushed]
        exact unclosed (b :: part) (List.cons_prefix_cons.mpr ⟨rfl, front⟩) (Nat.succ_le_succ short)
      rw [takeHead_more ending room here, ih later, List.drop_succ_cons]
      · simp only [headless, List.length_cons, Nat.add_le_add_iff_right]
      · intro closed
        exact later [] List.nil_prefix (Nat.zero_le room) (by rwa [List.append_nil])

/-- A head ends within the room, or no front closes there. -/
theorem head_or_headless (octets : List UInt8) :
    (∃ head rest, octets = head ++ rest ∧ IsHead head ∧ head.length ≤ room) ∨
      ∀ part, part <+: octets → part.length ≤ room → ¬ Closes part := by
  classical
  by_cases closes : ∃ n, n ≤ room ∧ Closes (octets.take n)
  · -- The shortest front that closes is a head.
    obtain ⟨within, closed⟩ := Nat.find_spec closes
    refine .inl ⟨octets.take (Nat.find closes), octets.drop (Nat.find closes),
      (List.take_append_drop _ octets).symm, ⟨closed, ?first⟩,
      Nat.le_trans (List.length_take_le _ octets) within⟩
    intro front isFront closedFront
    have short := isFront.length_le
    have least : Nat.find closes ≤ front.length := by
      refine Nat.find_min' closes ⟨?_, ?_⟩
      · exact Nat.le_trans short (Nat.le_trans (List.length_take_le _ octets) within)
      · have whole := isFront.trans (List.take_prefix _ octets)
        rwa [← List.prefix_iff_eq_take.mp whole]
    exact isFront.eq_of_length_le (Nat.le_trans (List.length_take_le _ octets) least)
  · refine .inr fun part front short closed => closes ⟨part.length, short, ?_⟩
    rwa [← List.prefix_iff_eq_take.mp front]

/-- A head is read just when it ends within the room, and nothing behind it is taken. -/
theorem takeHead_iff {octets head rest : List UInt8} :
    takeHead ending [] room octets = (.ok head, rest) ↔
      octets = head ++ rest ∧ IsHead head ∧ head.length ≤ room := by
  have reads {head rest : List UInt8} (isHead : IsHead head) (within : head.length ≤ room) :
      takeHead ending [] room (head ++ rest) = (.ok head, rest) :=
    @takeHead_front ending [] head room isHead.closes isHead.first within rest
  constructor
  · intro read
    rcases head_or_headless room octets with ⟨front, tail, rfl, isHead, within⟩ | unclosed
    · rw [reads isHead within] at read
      cases read
      exact ⟨rfl, isHead, within⟩
    · rw [takeHead_headless ending unclosed] at read
      cases read
  · rintro ⟨rfl, isHead, within⟩
    exact reads isHead within

end Reading

/-! ## Deliveries

The octets come in portions, and where these end is up to the network. -/

/-- The next octet, and what is still to be delivered then. -/
def next? : List (List UInt8) → Option (UInt8 × List (List UInt8))
  | [] => none
  | [] :: later => next? later
  | (b :: rest) :: later => some (b, rest :: later)

/-- Reads a head as `takeHead` does, from octets in portions. -/
def takePortions (ending : Ending) (back : List UInt8) (room : Nat)
    (portions : List (List UInt8)) : Except Failure (List UInt8) × List (List UInt8) :=
  if endsHead back then (.ok back.reverse, portions)
  else match room with
    | 0 => (.error (.tunnelRefused "oversized CONNECT response"), portions)
    | room + 1 => match next? portions with
      | none => (.error ending.failure, [])
      | some (b, later) => takePortions ending (b :: back) room later

theorem next_flatten (portions : List (List UInt8)) :
    match next? portions with
    | none => portions.flatten = []
    | some (b, later) => portions.flatten = b :: later.flatten := by
  induction portions using next?.induct with
  | case1 => rfl
  | case2 later ih => exact ih
  | case3 b rest later => rfl

/-- It does not matter how the octets were delivered. -/
theorem takePortions_flatten (ending : Ending) (back : List UInt8) (room : Nat)
    (portions : List (List UInt8)) :
    Prod.map id List.flatten (takePortions ending back room portions) =
      takeHead ending back room portions.flatten := by
  induction room generalizing back portions with
  | zero =>
    rw [takePortions, takeHead.eq_def]
    by_cases ended : endsHead back = true <;> simp [ended]
  | succ room ih =>
    have next := next_flatten portions
    rw [takePortions, takeHead.eq_def]
    by_cases ended : endsHead back = true
    · simp [ended]
    · cases found : next? portions with
      | none =>
        rw [found] at next
        simp [ended, next]
      | some pair =>
        obtain ⟨b, later⟩ := pair
        rw [found] at next
        simp [ended, next, ih]

/-! ## The answer as a whole -/

/-- A head has a line, and a line break stays one in its text. -/
theorem feed_of_head {head : List UInt8} (isHead : IsHead head) :
    '\n' ∈ (Text.lossy (Bytes.ofOctets head)).toList :=
  feed_of_lossy (isHead.closes.subset (by decide))

/-- That a head in the first octets grants a tunnel, and what is left for the tunnel behind it. -/
inductive Granted (octets rest : List UInt8) : Prop where
  | behind {head : List UInt8} (whole : octets = head ++ rest) (isHead : IsHead head)
      (within : head.length ≤ maxHead)
      (success : Succeeds (Text.lossy (Bytes.ofOctets head)).toList) : Granted octets rest

theorem negotiate_iff {t : Transcript} {rest : List UInt8} :
    negotiate t = (.ok (), rest) ↔ Granted t.octets rest := by
  rw [negotiate]
  constructor
  · intro granted
    split at granted
    · cases granted
    · rename_i head left read
      obtain ⟨whole, isHead, within⟩ := (takeHead_iff t.ending maxHead).mp read
      dsimp only at granted
      split at granted
      · rename_i success
        cases granted
        exact .behind whole isHead within ((granted_iff (feed_of_head isHead)).mp success)
      · cases granted
  · rintro ⟨whole, isHead, within, success⟩
    rw [(takeHead_iff t.ending maxHead).mpr ⟨whole, isHead, within⟩]
    exact if_pos ((granted_iff (feed_of_head isHead)).mpr success)

/-- Once the other side has answered, the tunnel stands just when it was granted. -/
theorem tunnel_stands_iff {net : Network} {o : Options} {w : Wire} {host : String} {port : Nat}
    {reply : Reply Transcript} {j : Journey} {clock : Clock} {t : Transcript}
    (asked : net.tunnel w (tunnelRequest host port) = .ok reply)
    (answered : j.clock.await o.socketLimit .tunnel reply = (clock, .came t)) :
    (∃ wire k, (Send.tunnel net o w host port).run.run j = (.ok wire, k)) ↔
      ∃ rest, Granted t.octets rest := by
  have granted : (∃ rest, Granted t.octets rest) ↔ (negotiate t).1 = .ok () := by
    simp only [← negotiate_iff, Prod.ext_iff, exists_and_left, exists_eq', and_true]
  rw [granted, Send.tunnel, asked]
  dsimp only
  rw [run_bind, run_wait, answered]
  dsimp only
  rw [run_bind]
  cases (negotiate t).1 with
  | error f =>
    refine ⟨?_, nofun⟩
    rintro ⟨_, _, stopped⟩
    cases stopped
  | ok => exact ⟨fun _ => rfl, fun _ => ⟨_, _, rfl⟩⟩

/-- How an answer is read, whatever it is. -/
structure Answered (t : Transcript) : Prop where
  head : ∀ head rest, takeHead t.ending [] maxHead t.octets = (.ok head, rest) ↔
    t.octets = head ++ rest ∧ IsHead head ∧ head.length ≤ maxHead
  headless : (∀ head rest, t.octets = head ++ rest → IsHead head → maxHead < head.length) →
    takeHead t.ending [] maxHead t.octets =
      (.error (headless t.ending maxHead t.octets), t.octets.drop maxHead)
  portions : ∀ portions : List (List UInt8), portions.flatten = t.octets →
    Prod.map id List.flatten (takePortions t.ending [] maxHead portions) =
      takeHead t.ending [] maxHead t.octets
  granted : ∀ rest, negotiate t = (.ok (), rest) ↔ Granted t.octets rest
  stands : ∀ net o w host port reply j clock, net.tunnel w (tunnelRequest host port) = .ok reply →
    j.clock.await o.socketLimit .tunnel reply = (clock, .came t) →
    ((∃ wire k, (Send.tunnel net o w host port).run.run j = (.ok wire, k)) ↔
      ∃ rest, Granted t.octets rest)

/-- An answer is read up to the first end of a head and no further, if this comes within the first
octets, and the tunnel stands just when the head says so. -/
theorem answers_are_read_to_their_heads (t : Transcript) : Answered t where
  head := fun _ _ => takeHead_iff t.ending maxHead
  headless := by
    intro beyond
    apply takeHead_headless
    rcases head_or_headless maxHead t.octets with ⟨head, rest, whole, isHead, within⟩ | unclosed
    · exact absurd within (Nat.not_le_of_gt (beyond head rest whole isHead))
    · exact unclosed
  portions := by
    rintro portions whole
    rw [← whole, takePortions_flatten]
  granted := fun _ => negotiate_iff
  stands := fun _ _ _ _ _ _ _ _ asked answered => tunnel_stands_iff asked answered

end Wirelog.TunnelHeads
