import Wirelog.Pacing.Overlap

/-! One poll of a stream. Reading and writing go through their grants in the same way: a poll either
waits and leaves the stream below alone, or hands it a window and passes its answer on. What it asks
of its bucket is what it moves under a limit and what it then holds, less what it held before. -/
namespace Wirelog.GrantLaws
open Pacing Overlap

/-! ## Lines -/

@[simp] theorem bucket_withBucket (l : Line) (d : Direction) (b : Bucket) :
    (l.withBucket d b).bucket d = b := by
  cases d <;> rfl

theorem bucket_withBucket_ne (l : Line) {d e : Direction} (other : d ≠ e) (b : Bucket) :
    (l.withBucket d b).bucket e = l.bucket e := by
  match d, e with
  | .up, .down => rfl
  | .down, .up => rfl
  | .up, .up => exact absurd rfl other
  | .down, .down => exact absurd rfl other

@[simp] theorem limits_withBucket (l : Line) (d : Direction) (b : Bucket) :
    (l.withBucket d b).limits = l.limits := by
  cases d <;> rfl

/-- A line whose bucket of a direction had some calls, and nothing else. -/
def called (l : Line) (d : Direction) (calls : List Call) : Line :=
  l.withBucket d (replay (l.bucket d) calls)

theorem called_nil (l : Line) (d : Direction) : called l d [] = l := by
  cases d <;> rfl

theorem called_append (l : Line) (d : Direction) (first second : List Call) :
    called (called l d first) d second = called l d (first ++ second) := by
  simp only [called, bucket_withBucket, replay, List.foldl_append]
  cases d <;> rfl

theorem refund_called (l : Line) (d : Direction) (size : Nat) :
    l.refund d size = called l d [.refund size] :=
  rfl

/-! ## Grants -/

theorem net_append (first second : List Call) : net (first ++ second) = net first + net second := by
  induction first with
  | nil => simp only [net, List.nil_append, Int.zero_add]
  | cons call rest ih => simp only [net, List.cons_append, ih, Int.add_assoc]

theorem chunk_pos (rate : Nat) : 0 < chunk rate := by
  simp only [chunk, leastChunk]
  omega

section

variable (g : Grant) (l : Line) (d : Direction) (now : Rat) {want : Nat}

/-- A poll without a limit gives back whatever is granted. -/
theorem poll_free (wanted : want ≠ 0) (free : l.limits.rate? d = none) :
    g.callsBefore l d now want = [.refund g.size] ∧
      g.poll l d now want = ({}, called l d (g.callsBefore l d now want), .ready none) := by
  have before : g.callsBefore l d now want = [.refund g.size] := by
    simp only [Grant.callsBefore, wanted, free, ↓reduceIte]
  exact ⟨before, by simp only [Grant.poll, free, before, refund_called]⟩

/-- A poll under a limit holds some grant, the old one or a new one, and either waits for it or lets
a part of it through. -/
theorem poll_limited (wanted : want ≠ 0) {rate : Nat} (limited : l.limits.rate? d = some rate) :
    ∃ held : Grant, 0 < held.size ∧
      net (g.callsBefore l d now want) + g.size = held.size ∧
      (g.poll l d now want = (held, called l d (g.callsBefore l d now want), .pending) ∨
        g.poll l d now want = (held, called l d (g.callsBefore l d now want),
          .ready (some (min held.size want)))) := by
  obtain ⟨asked, some_granted, balance, reserved⟩ : ∃ asked : Grant, 0 < asked.size ∧
      net (g.callsBefore l d now want) + g.size = asked.size ∧
      g.reserve l d now rate want = (asked, called l d (g.callsBefore l d now want)) := by
    by_cases empty : g.size = 0
    · have before : g.callsBefore l d now want = [.reserve now (min want (chunk rate)) rate] := by
        simp only [Grant.callsBefore, wanted, limited, empty, ↓reduceIte]
      refine ⟨_, ?_, ?_, by simp only [Grant.reserve, empty, ↓reduceIte, before]; rfl⟩
      · have := chunk_pos rate
        dsimp only
        omega
      · simp [before, net, Call.net, empty]
    · have before : g.callsBefore l d now want = [] := by
        simp only [Grant.callsBefore, wanted, limited, empty, ↓reduceIte]
      refine ⟨g, by omega, by simp [before, net], ?_⟩
      simp only [Grant.reserve, empty, ↓reduceIte, before, called_nil]
  cases due : asked.due with
  | none =>
    refine ⟨asked, some_granted, balance, .inr ?_⟩
    simp only [Grant.poll, limited, reserved, due]
  | some moment =>
    by_cases waits : now < moment
    · exact ⟨asked, some_granted, balance,
        .inl (by simp only [Grant.poll, limited, reserved, due, waits, ↓reduceIte])⟩
    · exact ⟨{ asked with due := none }, some_granted, balance,
        .inr (by simp only [Grant.poll, limited, reserved, due, waits, ↓reduceIte])⟩

/-! ## Polls in either direction -/

/-- How many octets an outcome moves. -/
def movedIn {α : Type} (size : α → Nat) : Outcome α → Nat
  | .ready a => size a
  | _ => 0

/-- A poll through a grant: what reading and writing have in common. -/
def serve {α : Type} (want : Nat) (size : α → Nat) (below : Nat → Outcome α) :
    Grant × Line × Outcome α :=
  if want = 0 then (g, l, below 0)
  else match g.poll l d now want with
    | (g, l, .ready none) => (g, l, below want)
    | (g, l, .ready (some n)) =>
      ((Stream.settleAfter g l d size (below n)).1, (Stream.settleAfter g l d size (below n)).2,
        below n)
    | (g, l, .pending) => (g, l, .pending)
    | (g, l, .failed e) => (g, l, .failed e)

theorem settle_after {α : Type} (size : α → Nat) (outcome : Outcome α) :
    Stream.settleAfter g l d size outcome =
      ({ g with size := 0 }, called l d [.refund (g.size - movedIn size outcome)]) := by
  cases outcome <;> rfl

/-- What becomes of a poll: the grant, the line and the outcome after it. -/
structure Served {α : Type} (want : Nat) (size : α → Nat) (below : Nat → Outcome α)
    (grant : Grant) (after : Line) (outcome : Outcome α) : Prop where
  /-- It waits, or passes on what the stream below makes of its window. -/
  told : outcome = (g.window? l d now want).elim .pending below
  /-- A window holds something, but no more than was wanted. -/
  window : want ≠ 0 → ∀ n, g.window? l d now want = some n → 1 ≤ n ∧ n ≤ want
  /-- Nothing is granted any longer when it came to the stream below. -/
  settled : want ≠ 0 → (g.window? l d now want).isSome → grant.size = 0
  /-- Its calls are all that happens to the line. -/
  line : after = called l d
    (g.callsBefore l d now want ++ g.callsAfter l d now want (movedIn size outcome))
  /-- What the calls reserve is moved under a limit, or granted afterwards and not before. -/
  balance : (∀ n a, below n = .ready a → size a ≤ n) →
    net (g.callsBefore l d now want ++ g.callsAfter l d now want (movedIn size outcome)) + g.size =
      g.counted l d now want (movedIn size outcome) + grant.size

section

variable {α : Type} (size : α → Nat) (below : Nat → Outcome α)

theorem served_nothing : Served g l d now 0 size below g l (below 0) where
  told := rfl
  window := absurd rfl
  settled := absurd rfl
  line := (called_nil l d).symm
  balance _ := by simp [Grant.callsBefore, Grant.callsAfter, Grant.counted, net]

variable {g l d now} (wanted : want ≠ 0)
include wanted

theorem window_free (free : l.limits.rate? d = none) : g.window? l d now want = some want := by
  simp only [Grant.window?, wanted, (poll_free g l d now wanted free).2, ↓reduceIte]

theorem served_free (free : l.limits.rate? d = none) :
    Served g l d now want size below {} (called l d [.refund g.size]) (below want) := by
  obtain ⟨before, polled⟩ := poll_free g l d now wanted free
  have window : g.window? l d now want = some want := window_free wanted free
  have after (n : Nat) : g.callsAfter l d now want n = [] := by
    simp only [Grant.callsAfter, wanted, polled, ↓reduceIte]
  have counted (n : Nat) : g.counted l d now want n = 0 := by
    simp only [Grant.counted, wanted, polled, ↓reduceIte]
  constructor
  case told => rw [window, Option.elim_some]
  case window =>
    intro _ n found
    rw [window] at found
    cases found
    omega
  case settled => exact fun _ _ => rfl
  case line => rw [before, after, List.append_nil]
  case balance =>
    intro _
    rw [before, after, counted, List.append_nil]
    simp only [net, Call.net]
    omega

theorem served_waiting {held : Grant}
    (balance : net (g.callsBefore l d now want) + g.size = held.size)
    (waits : g.poll l d now want = (held, called l d (g.callsBefore l d now want), .pending)) :
    Served g l d now want size below held (called l d (g.callsBefore l d now want)) .pending := by
  have window : g.window? l d now want = none := by
    simp only [Grant.window?, wanted, waits, ↓reduceIte]
  have after (n : Nat) : g.callsAfter l d now want n = [] := by
    simp only [Grant.callsAfter, wanted, waits, ↓reduceIte]
  have counted (n : Nat) : g.counted l d now want n = 0 := by
    simp only [Grant.counted, wanted, waits, ↓reduceIte]
  constructor
  case told => rw [window, Option.elim_none]
  case window => rw [window]; exact fun _ _ found => nomatch found
  case settled => rw [window]; exact fun _ found => nomatch found
  case line => rw [after, List.append_nil]
  case balance =>
    intro _
    rw [after, counted, List.append_nil, balance, Int.natCast_zero, Int.zero_add]

theorem served_window {held : Grant} (granted : 0 < held.size)
    (balance : net (g.callsBefore l d now want) + g.size = held.size)
    (goes : g.poll l d now want = (held, called l d (g.callsBefore l d now want),
      .ready (some (min held.size want)))) :
    Served g l d now want size below { held with size := 0 }
      (called (called l d (g.callsBefore l d now want)) d
        [.refund (held.size - movedIn size (below (min held.size want)))])
      (below (min held.size want)) := by
  have window : g.window? l d now want = some (min held.size want) := by
    simp only [Grant.window?, wanted, goes, ↓reduceIte]
  have after (n : Nat) : g.callsAfter l d now want n = [.refund (held.size - n)] := by
    simp only [Grant.callsAfter, wanted, goes, ↓reduceIte]
  have counted (n : Nat) : g.counted l d now want n = n := by
    simp only [Grant.counted, wanted, goes, ↓reduceIte]
  constructor
  case told => rw [window, Option.elim_some]
  case window =>
    intro _ n found
    rw [window] at found
    cases found
    omega
  case settled => exact fun _ _ => rfl
  case line => rw [after, called_append]
  case balance =>
    intro fits
    have moved : movedIn size (below (min held.size want)) ≤ held.size := by
      cases outcome : below (min held.size want) with
      | ready a => exact Nat.le_trans (fits _ a outcome) (Nat.min_le_left ..)
      | pending => exact Nat.zero_le _
      | failed => exact Nat.zero_le _
    rw [after, counted, net_append]
    simp only [net, Call.net] at balance ⊢
    omega

end

theorem serve_served {α : Type} (want : Nat) (size : α → Nat) (below : Nat → Outcome α) :
    Served g l d now want size below (serve g l d now want size below).1
      (serve g l d now want size below).2.1 (serve g l d now want size below).2.2 := by
  by_cases wanted : want = 0
  · subst wanted
    exact served_nothing g l d now size below
  cases limit : l.limits.rate? d with
  | none =>
    obtain ⟨before, polled⟩ := poll_free g l d now wanted limit
    simp only [serve, wanted, polled, before, ↓reduceIte]
    exact served_free size below wanted limit
  | some rate =>
    obtain ⟨held, granted, balance, waits | goes⟩ := poll_limited g l d now wanted limit
    · simp only [serve, wanted, waits, ↓reduceIte]
      exact served_waiting size below wanted balance waits
    · simp only [serve, wanted, goes, settle_after, ↓reduceIte]
      exact served_window size below wanted granted balance goes

end

/-! ## Streams -/

section

variable (s : Stream) (l : Line) (now : Rat)

theorem read_eq_serve (room : Nat) (below : Nat → Outcome (List UInt8)) :
    s.read l now room below =
      let served := serve s.reading l .down now room List.length below
      ({ s with reading := served.1 }, served.2) := by
  simp only [Stream.read, serve]
  split
  · rfl
  · rcases s.reading.poll l .down now room with ⟨g, l, (_ | size) | _ | _⟩ <;> rfl

theorem write_eq_serve (data : List UInt8) (below : List UInt8 → Outcome Nat) :
    s.write l now data below =
      let served := serve s.writing l .up now data.length id fun n => below (data.take n)
      ({ s with writing := served.1 }, served.2) := by
  simp only [Stream.write, serve]
  cases data with
  | nil => rfl
  | cons x rest =>
    simp only [List.isEmpty_cons, List.length_cons, Bool.false_eq_true, Nat.add_eq_zero_iff,
      Nat.succ_ne_self, and_false, ↓reduceIte]
    rcases s.writing.poll l .up now (rest.length + 1) with ⟨g, l, (_ | size) | _ | _⟩
    · -- Without a limit the window is all of the data.
      exact congrArg (fun offered => (_, _, below offered)) (List.take_length (l := x :: rest)).symm
    · rfl
    · rfl
    · rfl

end

/-! ## Streams on top of others -/

/-- The answer of a poll that has to be made again. -/
def unanswered : Ask → Answer
  | .read _ => .read .pending
  | .write _ => .write .pending

/-- What becomes of a poll of a stream on top of another. -/
structure Polled {σ : Type} (m : Machine σ) (x : Stack σ) (l : Line) (now : Rat) (ask : Ask)
    (y : Stack σ) (after : Line) (contact : Contact) : Prop where
  /-- The poll is noted as it was made. -/
  asked : contact.ask = ask
  /-- What the stream below is asked is the same for so many octets. -/
  handed : contact.handed = x.top.handed? l now ask
  /-- Some octets, if any were wanted, and no more than that. -/
  narrowed : ∀ inner, x.top.handed? l now ask = some inner →
    ∃ n, inner = ask.narrowed n ∧ n ≤ ask.size ∧ (ask.size ≠ 0 → 1 ≤ n)
  /-- The answer is the one from below, if that was asked for any. -/
  told : contact.told = (x.top.handed? l now ask).elim (unanswered ask) fun inner =>
    (m.serve x.below inner).1
  /-- The stream below moves on only if it is asked. -/
  below : y.below = (x.top.handed? l now ask).elim x.below fun inner => (m.serve x.below inner).2
  /-- Having asked below, the stream holds no grant. -/
  settled : ask.size ≠ 0 → (x.top.handed? l now ask).isSome →
    (y.top.grant ask.direction).size = 0
  /-- Nothing but buckets changes on the line. -/
  limits : after.limits = l.limits
  /-- Each bucket has the calls of the poll. -/
  bucket : ∀ d, after.bucket d = replay (l.bucket d) (x.top.calls l now d ask contact.told.moved)
  /-- What these reserve is moved under a limit, or granted afterwards and not before. -/
  balance : ∀ d, net (x.top.calls l now d ask contact.told.moved) + (x.top.grant d).size =
    x.top.counted l now d ask contact.told.moved + (y.top.grant d).size

section

variable {σ : Type} {m : Machine σ} {x y : Stack σ} {l after : Line} {now : Rat} {ask : Ask}

/-- What holds of a grant holds of the stream with this grant, whichever its direction is. -/
theorem polled_of_served {α : Type} {size : α → Nat} {inner : Nat → Outcome α}
    {outcome : Outcome α} {answer : Outcome α → Answer}
    (served : Served (x.top.grant ask.direction) l ask.direction now ask.size size inner
      (y.top.grant ask.direction) after outcome)
    (others : ∀ d, ask.direction ≠ d → y.top.grant d = x.top.grant d)
    (below : y.below =
      (x.top.handed? l now ask).elim x.below fun inner => (m.serve x.below inner).2)
    (passed : ∀ n, answer (inner n) = (m.serve x.below (ask.narrowed n)).1)
    (silent : answer .pending = unanswered ask)
    (moved : ∀ o, (answer o).moved = movedIn size o)
    (fits : ∀ n a, inner n = .ready a → size a ≤ n) :
    Polled m x l now ask y after
      { ask, handed := x.top.handed? l now ask, told := answer outcome } := by
  constructor
  case asked => rfl
  case handed => rfl
  case below => exact below
  case narrowed =>
    intro asked found
    obtain ⟨n, window, rfl⟩ := Option.map_eq_some_iff.mp found
    refine ⟨n, rfl, ?_, fun wanted => (served.window wanted n window).1⟩
    by_cases wanted : ask.size = 0
    · rw [Grant.window?, if_pos wanted] at window
      cases window
      exact Nat.zero_le _
    · exact (served.window wanted n window).2
  case told =>
    simp only [served.told, Stream.handed?]
    cases (x.top.grant ask.direction).window? l ask.direction now ask.size with
    | none => exact silent
    | some n => exact passed n
  case settled =>
    intro wanted found
    rw [Stream.handed?, Option.isSome_map] at found
    exact served.settled wanted found
  case limits => rw [served.line, called, limits_withBucket]
  case bucket =>
    intro d
    rw [served.line, called, moved, Stream.calls]
    split
    · rename_i same
      subst same
      exact bucket_withBucket ..
    · rename_i other
      exact bucket_withBucket_ne l other _
  case balance =>
    intro d
    simp only [Stream.calls, Stream.counted, moved]
    split
    · rename_i same
      subst same
      exact served.balance fits
    · rename_i other
      rw [others d other]
      simp [net]

end

theorem stack_polled {σ : Type} (m : Machine σ) (x : Stack σ) (l : Line) (now : Rat) (ask : Ask) :
    Polled m x l now ask (x.poll m l now ask).1 (x.poll m l now ask).2.1
      (x.poll m l now ask).2.2 := by
  cases ask with
  | read room =>
    have served := serve_served x.top.reading l .down now room List.length
      fun room => (m.read x.below room).1
    simp only [Stack.poll, read_eq_serve]
    refine polled_of_served served ?others ?below (fun n => rfl) rfl ?moved
      fun n part => m.read_fits x.below n part
    case others =>
      intro d other
      cases d with
      | up => rfl
      | down => exact absurd rfl other
    case below => cases x.top.handed? l now (.read room) <;> rfl
    case moved => intro o; cases o <;> rfl
  | write data =>
    have served := serve_served x.top.writing l .up now data.length id
      fun n => (m.write x.below (data.take n)).1
    simp only [Stack.poll, write_eq_serve]
    refine polled_of_served served ?others ?below (fun n => rfl) rfl ?moved ?fits
    case others =>
      intro d other
      cases d with
      | up => exact absurd rfl other
      | down => rfl
    case below => cases x.top.handed? l now (.write data) <;> rfl
    case moved => intro o; cases o <;> rfl
    case fits =>
      intro n taken answered
      exact Nat.le_trans (m.write_fits _ _ _ answered) (List.length_take_le n data)

end Wirelog.GrantLaws
