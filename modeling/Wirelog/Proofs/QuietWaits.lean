import Wirelog.Recording.Quiet

/-! How a wait for silence ends. Each request moves the moment that it waits for, and sleeps may
end late, past that moment, past the timeout or past both. A round that comes when its target has
been reached ends the wait unless a request came in between, so there is a request for every round
but the first and the last; and the target is never further away than the timeout. Two things are
not as promised, though. Where the clock cannot tell one of its targets the wait panics. And a
request that comes when the last round has looked for it, but not yet at the time, is overlooked, so
the answer may be that it was quiet when it was not. -/
namespace Wirelog.QuietWaits
open Recording Quiet

variable {w : Wait} {turns : List Turn} {turn : Turn} {wake last : Time.Span} {e : Ending}

/-- The moment at which it has been quiet for long enough if no more requests come. -/
def quietAt (w : Wait) (last : Time.Span) : Time.Span :=
  max last w.start + w.quiet

/-- The moment at which the wait gives up. -/
def deadline (w : Wait) : Time.Span :=
  w.start + w.timeout

/-! ## One round -/

theorem later?_some {moment length : Time.Span} (fits : moment + length ≤ w.horizon) :
    w.later? moment length = some (moment + length) :=
  if_pos fits

theorem later?_none {moment length : Time.Span} (beyond : w.horizon < moment + length) :
    w.later? moment length = none :=
  if_neg (Nat.not_le.mpr beyond)

/-- What a round comes to: the quiet period is looked at first, then the timeout. -/
inductive Looks (quietAt deadline now : Time.Span) : Round → Prop where
  | quiet (reached : quietAt ≤ now) : Looks quietAt deadline now (.over true)
  | late (early : now < quietAt) (reached : deadline ≤ now) :
      Looks quietAt deadline now (.over false)
  | sleeps (early : now < quietAt) (left : now < deadline) :
      Looks quietAt deadline now (.sleep (min quietAt deadline))

theorem looks_of (quietAt deadline now : Time.Span) :
    Looks quietAt deadline now (Round.of quietAt deadline now) := by
  unfold Round.of
  split
  case isTrue reached => exact .quiet reached
  case isFalse early =>
    split
    case isTrue late => exact .late (Nat.lt_of_not_le early) late
    case isFalse left => exact .sleeps (Nat.lt_of_not_le early) (Nat.lt_of_not_le left)

theorem looks_of_round {quietAt deadline now : Time.Span} {r : Round}
    (comes : Round.of quietAt deadline now = r) : Looks quietAt deadline now r :=
  comes ▸ looks_of quietAt deadline now

/-! ## All rounds -/

/-- How a wait that ends goes on from a round. -/
inductive Course (w : Wait) : List Turn → Time.Span → Time.Span → Ending → Prop where
  | panics {turn : Turn} {rest : List Turn} {wake last : Time.Span}
      (beyond : w.horizon < quietAt w (latest turn.before last)) :
      Course w (turn :: rest) wake last ⟨.panicked, 1, turn.before⟩
  | ends {turn : Turn} {rest : List Turn} {wake last : Time.Span} {quiet : Bool}
      (fits : quietAt w (latest turn.before last) ≤ w.horizon)
      (comes : Round.of (quietAt w (latest turn.before last)) (deadline w) (wake + turn.late) =
        .over quiet) :
      Course w (turn :: rest) wake last ⟨.answered quiet (wake + turn.late), 1, turn.requests⟩
  | sleeps {turn : Turn} {rest : List Turn} {wake last next : Time.Span} {e : Ending}
      (fits : quietAt w (latest turn.before last) ≤ w.horizon)
      (comes : Round.of (quietAt w (latest turn.before last)) (deadline w) (wake + turn.late) =
        .sleep next)
      (later : Course w rest next (latest turn.requests last) e) :
      Course w (turn :: rest) wake last (e.after turn)

theorem rounds_panics (beyond : w.horizon < quietAt w (latest turn.before last))
    (rest : List Turn) (wake : Time.Span) :
    w.rounds (deadline w) (turn :: rest) wake last = some ⟨.panicked, 1, turn.before⟩ := by
  have none : w.quietAt? (latest turn.before last) = none := later?_none beyond
  simp only [Wait.rounds, none]

theorem rounds_ends {quiet : Bool} (fits : quietAt w (latest turn.before last) ≤ w.horizon)
    (comes : Round.of (quietAt w (latest turn.before last)) (deadline w) (wake + turn.late) =
      .over quiet) (rest : List Turn) :
    w.rounds (deadline w) (turn :: rest) wake last =
      some ⟨.answered quiet (wake + turn.late), 1, turn.requests⟩ := by
  have target : w.quietAt? (latest turn.before last) = some (quietAt w _) := later?_some fits
  simp only [Wait.rounds, target, comes]

theorem rounds_sleeps {next : Time.Span} (fits : quietAt w (latest turn.before last) ≤ w.horizon)
    (comes : Round.of (quietAt w (latest turn.before last)) (deadline w) (wake + turn.late) =
      .sleep next) (rest : List Turn) :
    w.rounds (deadline w) (turn :: rest) wake last =
      (w.rounds (deadline w) rest next (latest turn.requests last)).map (Ending.after turn) := by
  have target : w.quietAt? (latest turn.before last) = some (quietAt w _) := later?_some fits
  simp only [Wait.rounds, target, comes]

theorem course_of_rounds (ended : w.rounds (deadline w) turns wake last = some e) :
    Course w turns wake last e := by
  induction turns generalizing wake last e with
  | nil => cases ended
  | cons turn rest ih =>
    by_cases fits : quietAt w (latest turn.before last) ≤ w.horizon
    · match comes : Round.of (quietAt w (latest turn.before last)) (deadline w) (wake + turn.late) with
      | .over quiet =>
        rw [rounds_ends fits comes] at ended
        cases ended
        exact .ends fits comes
      | .sleep next =>
        rw [rounds_sleeps fits comes] at ended
        obtain ⟨after, later, rfl⟩ := Option.map_eq_some_iff.mp ended
        exact .sleeps fits comes (ih later)
    · have beyond := Nat.lt_of_not_le fits
      rw [rounds_panics beyond] at ended
      cases ended
      exact .panics beyond

/-- For each round but the first and the last there is a request, and also for the first if its
target was reached already. -/
theorem rounds_le_requests (course : Course w turns wake last e) :
    e.rounds ≤ e.requests.length + 2 ∧
      (min (quietAt w last) (deadline w) ≤ wake → e.rounds ≤ e.requests.length + 1) := by
  induction course with
  | panics => exact ⟨Nat.le_add_left .., fun _ => Nat.le_add_left ..⟩
  | ends => exact ⟨Nat.le_add_left .., fun _ => Nat.le_add_left ..⟩
  | @sleeps turn rest wake last next e fits comes later ih =>
    obtain ⟨most, reached⟩ := ih
    have length : (e.after turn).requests.length =
        turn.before.length + turn.between.length + e.requests.length := by
      simp [Ending.after, Turn.requests, Nat.add_assoc]
    have rounds : (e.after turn).rounds = e.rounds + 1 := rfl
    -- The next round finds its target reached unless a request came after this one looked for it.
    have onward : e.rounds ≤ turn.between.length + e.requests.length + 1 := by
      cases between : turn.between with
      | nil =>
        refine Nat.le_trans (reached ?_) (by omega)
        rw [Turn.requests, between, List.append_nil]
        cases looks_of_round comes
        exact Nat.le_refl _
      | cons => rw [List.length_cons]; omega
    refine ⟨by omega, fun now => ?_⟩
    -- This one has slept, so a request has moved its target.
    have moved : turn.before ≠ [] := by
      intro none
      cases looks_of_round comes with
      | sleeps early left =>
        rw [none] at early
        have later : wake < min (quietAt w last) (deadline w) :=
          Nat.lt_of_le_of_lt (Nat.le_add_right ..) (Nat.lt_min.mpr ⟨early, left⟩)
        exact absurd later (Nat.not_lt.mpr now)
    have := List.length_pos_iff.mpr moved
    omega

/-- The first turns of a row without end. -/
def upTo (turns : Nat → Turn) (n : Nat) : List Turn :=
  (List.range n).map turns

theorem upTo_succ (turns : Nat → Turn) (n : Nat) :
    upTo turns (n + 1) = turns 0 :: upTo (fun i => turns (i + 1)) n := by
  rw [upTo, List.range_succ_eq_map, List.map_cons, List.map_map]
  rfl

theorem forall_upTo {turns : Nat → Turn} {P : Turn → Prop} (all : ∀ i, P (turns i)) (n : Nat) :
    ∀ turn ∈ upTo turns n, P turn :=
  List.forall_mem_map.mpr fun i _ => all i

theorem requests_upTo {turns : Nat → Turn} (silent : ∀ i, (turns i).requests = []) (n : Nat) :
    (upTo turns n).flatMap Turn.requests = [] :=
  List.flatMap_eq_nil_iff.mpr (forall_upTo silent n)

/-- Every round that ends in a sleep comes nearer to the timeout, so some round ends the wait. -/
theorem rounds_end (w : Wait) (turns : Nat → Turn) (wake last : Time.Span) :
    ∃ n e, w.rounds (deadline w) (upTo turns n) wake last = some e := by
  induction left : deadline w - wake using Nat.strongRecOn generalizing turns wake last with
  | ind remaining ih =>
    by_cases fits : quietAt w (latest (turns 0).before last) ≤ w.horizon
    · match comes : Round.of (quietAt w (latest (turns 0).before last)) (deadline w)
        (wake + (turns 0).late) with
      | .over quiet => exact ⟨1, _, rounds_ends fits comes []⟩
      | .sleep next =>
        have nearer : deadline w - next < remaining := by
          cases looks_of_round comes with
          | sleeps early before =>
            have later : wake < min (quietAt w _) (deadline w) :=
              Nat.lt_of_le_of_lt (Nat.le_add_right ..) (Nat.lt_min.mpr ⟨early, before⟩)
            rw [← left]
            exact Nat.sub_lt_sub_left (Nat.lt_of_le_of_lt (Nat.le_add_right ..) before) later
        obtain ⟨n, e, ended⟩ := ih _ nearer (fun i => turns (i + 1)) next
          (latest (turns 0).requests last) rfl
        refine ⟨n + 1, e.after (turns 0), ?_⟩
        rw [upTo_succ, rounds_sleeps fits comes, ended, Option.map_some]
    · exact ⟨1, _, rounds_panics (Nat.lt_of_not_le fits) [] wake⟩

theorem rounds_pos (course : Course w turns wake last e) : 0 < e.rounds := by
  cases course <;> exact Nat.succ_pos _

theorem rounds_le_turns (course : Course w turns wake last e) : e.rounds ≤ turns.length := by
  induction course with
  | panics => exact Nat.le_add_left ..
  | ends => exact Nat.le_add_left ..
  | sleeps fits comes later ih => exact Nat.succ_le_succ ih

/-- A wait looks at the turns of its rounds only. -/
theorem rounds_of_course (course : Course w turns wake last e) (more : List Turn) :
    w.rounds (deadline w) (turns.take e.rounds ++ more) wake last = some e := by
  induction course with
  | panics beyond => exact rounds_panics beyond _ _
  | ends fits comes => exact rounds_ends fits comes _
  | @sleeps turn rest wake last next e fits comes later ih =>
    change w.rounds (deadline w) (turn :: (rest.take e.rounds ++ more)) wake last = _
    rw [rounds_sleeps fits comes, ih, Option.map_some]

/-! ## The last round -/

theorem latest_append (first second : List Time.Span) (before : Time.Span) :
    latest (first ++ second) before = latest second (latest first before) := by
  rw [latest, latest, latest, List.getLast?_append, Option.getD_or]

/-- How the last round of a wait went, with the rounds before it. -/
inductive Closes (w : Wait) (last : Time.Span) (earlier : List Turn) (turn : Turn) :
    Ending → Prop where
  | panics
      (beyond : w.horizon <
        quietAt w (latest (earlier.flatMap Turn.requests ++ turn.before) last)) :
      Closes w last earlier turn
        ⟨.panicked, earlier.length + 1, earlier.flatMap Turn.requests ++ turn.before⟩
  | answers {quiet : Bool} {moment : Time.Span}
      (fits : quietAt w (latest (earlier.flatMap Turn.requests ++ turn.before) last) ≤ w.horizon)
      (looks : Looks (quietAt w (latest (earlier.flatMap Turn.requests ++ turn.before) last))
        (deadline w) moment (.over quiet)) :
      Closes w last earlier turn
        ⟨.answered quiet moment, earlier.length + 1, earlier.flatMap Turn.requests ++ turn.requests⟩

theorem closes_of_course (course : Course w turns wake last e) :
    ∃ earlier turn rest, turns = earlier ++ turn :: rest ∧ Closes w last earlier turn e := by
  induction course with
  | panics beyond => exact ⟨[], _, _, rfl, .panics beyond⟩
  | ends fits comes => exact ⟨[], _, _, rfl, .answers fits (looks_of_round comes)⟩
  | @sleeps first rest wake last next e fits comes later ih =>
    obtain ⟨earlier, turn, rest, rfl, closes⟩ := ih
    refine ⟨first :: earlier, turn, rest, rfl, ?_⟩
    have together (more : List Time.Span) :
        latest ((first :: earlier).flatMap Turn.requests ++ more) last =
          latest (earlier.flatMap Turn.requests ++ more) (latest first.requests last) := by
      rw [List.flatMap_cons, List.append_assoc, latest_append]
    cases closes with
    | panics beyond =>
      have closes : Closes w last (first :: earlier) turn _ := .panics (together _ ▸ beyond)
      simpa [Ending.after] using closes
    | answers fits looks =>
      have closes : Closes w last (first :: earlier) turn _ :=
        .answers (together _ ▸ fits) (together _ ▸ looks)
      simpa [Ending.after] using closes

variable {earlier : List Turn}

theorem rounds_of_closes (closes : Closes w last earlier turn e) :
    e.rounds = earlier.length + 1 := by
  cases closes <;> rfl

theorem panicked_iff (closes : Closes w last earlier turn e) :
    e.outcome = .panicked ↔
      w.horizon < quietAt w (latest (earlier.flatMap Turn.requests ++ turn.before) last) := by
  cases closes with
  | panics beyond => exact iff_of_true rfl beyond
  | answers fits => exact iff_of_false nofun (Nat.not_lt.mpr fits)

theorem looks_of_answer {quiet : Bool} {moment : Time.Span}
    (closes : Closes w last earlier turn e) (answered : e.outcome = .answered quiet moment) :
    Looks (quietAt w (latest (earlier.flatMap Turn.requests ++ turn.before) last)) (deadline w)
      moment (.over quiet) := by
  cases closes with
  | panics => cases answered
  | answers fits looks => cases answered; exact looks

theorem requests_of_closes (closes : Closes w last earlier turn e)
    (answers : e.outcome ≠ .panicked) :
    e.requests = (earlier ++ [turn]).flatMap Turn.requests := by
  cases closes with
  | panics => exact absurd rfl answers
  | answers => simp

theorem upTo_concat (turns : Nat → Turn) (n : Nat) :
    upTo turns (n + 1) = upTo turns n ++ [turns n] := by
  rw [upTo, List.range_succ, List.map_append]
  rfl

theorem upTo_take (turns : Nat → Turn) {m n : Nat} (fewer : m ≤ n) :
    (upTo turns n).take m = upTo turns m := by
  rw [upTo, ← List.map_take, List.take_range, Nat.min_eq_left fewer]
  rfl

/-- So it ends after just so many turns. -/
theorem rounds_upTo {turns : Nat → Turn} {n : Nat} (course : Course w (upTo turns n) wake last e)
    (m : Nat) :
    w.rounds (deadline w) (upTo turns m) wake last = if e.rounds ≤ m then some e else none := by
  have enough : e.rounds ≤ n := by simpa [upTo] using rounds_le_turns course
  have onward {m : Nat} (many : e.rounds ≤ m) :
      w.rounds (deadline w) (upTo turns m) wake last = some e := by
    have whole := rounds_of_course course ((upTo turns m).drop e.rounds)
    rw [upTo_take turns enough, ← upTo_take turns many, List.take_append_drop] at whole
    exact whole
  split
  case isTrue many => exact onward many
  case isFalse few =>
    match ended : w.rounds (deadline w) (upTo turns m) wake last with
    | none => rfl
    | some other =>
      have course := course_of_rounds ended
      have fewer : other.rounds ≤ m := by simpa [upTo] using rounds_le_turns course
      have whole := rounds_of_course course ((upTo turns e.rounds).drop other.rounds)
      rw [upTo_take turns fewer, ← upTo_take turns (show other.rounds ≤ e.rounds by omega),
        List.take_append_drop, onward (Nat.le_refl _)] at whole
      cases whole
      exact absurd fewer few

theorem upTo_split {turns : Nat → Turn} {n : Nat} {earlier rest : List Turn}
    (split : upTo turns n = earlier ++ turn :: rest) :
    earlier = upTo turns earlier.length ∧ turn = turns earlier.length := by
  have length : n = earlier.length + (rest.length + 1) := by
    simpa [upTo] using congrArg List.length split
  refine ⟨?_, ?_⟩
  · rw [← upTo_take turns (show earlier.length ≤ n by omega), split, List.take_left]
  · have there := congrArg (·[earlier.length]?) split
    simpa [upTo, show earlier.length < n by omega] using there.symm

theorem closes_upTo {turns : Nat → Turn} {n : Nat} (course : Course w (upTo turns n) wake last e) :
    Closes w last (upTo turns (e.rounds - 1)) (turns (e.rounds - 1)) e := by
  obtain ⟨earlier, turn, rest, split, closes⟩ := closes_of_course course
  obtain ⟨front, here⟩ := upTo_split split
  rw [rounds_of_closes closes, Nat.add_sub_cancel, ← front, ← here]
  exact closes

/-! ## Its time -/

/-- A wait whose sleeps end on time is over at the timeout. -/
theorem moment_le (course : Course w turns wake last e) (intime : wake ≤ deadline w)
    (prompt : ∀ turn ∈ turns, turn.late = 0) {quiet : Bool} {moment : Time.Span}
    (answered : e.outcome = .answered quiet moment) : moment ≤ deadline w := by
  induction course with
  | panics => cases answered
  | ends =>
    cases answered
    rw [(List.forall_mem_cons.mp prompt).1]
    exact intime
  | sleeps fits comes later ih =>
    refine ih ?_ (List.forall_mem_cons.mp prompt).2 answered
    cases looks_of_round comes
    exact Nat.min_le_right ..

/-- One that no request disturbs either is over at the first of its two targets. -/
theorem moment_eq (course : Course w turns wake last e)
    (intime : wake ≤ min (quietAt w last) (deadline w))
    (undisturbed : ∀ turn ∈ turns, turn.late = 0 ∧ turn.requests = []) {quiet : Bool}
    {moment : Time.Span} (answered : e.outcome = .answered quiet moment) :
    moment = min (quietAt w last) (deadline w) := by
  induction course with
  | panics => cases answered
  | ends fits comes =>
    cases answered
    obtain ⟨woken, silent⟩ := (List.forall_mem_cons.mp undisturbed).1
    rw [(List.append_eq_nil_iff.mp silent).1, woken] at comes
    rw [woken]
    refine Nat.le_antisymm intime ?_
    cases looks_of_round comes with
    | quiet reached => exact Nat.le_trans (Nat.min_le_left ..) reached
    | late early reached => exact Nat.le_trans (Nat.min_le_right ..) reached
  | sleeps fits comes later ih =>
    obtain ⟨⟨-, silent⟩, undisturbed⟩ := List.forall_mem_cons.mp undisturbed
    rw [silent] at ih
    refine ih ?_ undisturbed answered
    rw [(List.append_eq_nil_iff.mp silent).1] at comes
    cases looks_of_round comes
    exact Nat.le_refl _

/-! ## Every wait -/

/-- The requests come in order, all after the last one before the wait. -/
def InOrder (before : Time.Span) (turns : Nat → Turn) : Prop :=
  ∀ n, (before :: (upTo turns n).flatMap Turn.requests).Pairwise (· ≤ ·)

/-- The last request that a round sees. -/
def seen (before : Time.Span) (turns : Nat → Turn) (i : Nat) : Time.Span :=
  latest ((upTo turns i).flatMap Turn.requests ++ (turns i).before) before

theorem seen_eq (before : Time.Span) (turns : Nat → Turn) (i : Nat) :
    latest ((upTo turns i).flatMap Turn.requests ++ (turns i).before) before =
      seen before turns i :=
  rfl

theorem latest_mem (requests : List Time.Span) (before : Time.Span) :
    latest requests before ∈ before :: requests := by
  match found : requests.getLast? with
  | none => rw [latest, found]; exact List.mem_cons_self
  | some last => rw [latest, found]; exact List.mem_cons_of_mem _ (List.mem_of_getLast? found)

theorem le_latest {requests : List Time.Span} {before : Time.Span}
    (ordered : (before :: requests).Pairwise (· ≤ ·)) {request : Time.Span}
    (came : request ∈ before :: requests) : request ≤ latest requests before := by
  obtain rfl | ⟨front, last, rfl⟩ := List.eq_nil_or_concat requests
  · exact Nat.le_of_eq (List.mem_singleton.mp came)
  · have latest : latest (front.concat last) before = last := by simp [latest]
    rw [latest]
    rw [List.concat_eq_append, ← List.cons_append, List.pairwise_append] at ordered
    rw [List.concat_eq_append, ← List.cons_append, List.mem_append, List.mem_singleton] at came
    rcases came with early | rfl
    · exact ordered.2.2 request early last List.mem_cons_self
    · exact Nat.le_refl _

/-- What is promised of a wait, before which the last request came at some moment. -/
structure Promised (w : Wait) (before : Time.Span) (turns : Nat → Turn) (e : Ending) : Prop where
  /-- It ends with an answer. -/
  answers : e.outcome ≠ .panicked
  /-- There were at most two more rounds than requests. -/
  soon : e.rounds ≤ e.requests.length + 2
  /-- It was quiet for long enough since the wait began and since the last request, if the answer
  says so. -/
  quiet : ∀ moment, e.outcome = .answered true moment →
    w.start + w.quiet ≤ moment ∧ latest e.requests before + w.quiet ≤ moment
  /-- It was not, and the timeout has passed, if the answer says that. -/
  restless : ∀ moment, e.outcome = .answered false moment →
    w.start + w.timeout ≤ moment ∧ moment < max (latest e.requests before) w.start + w.quiet
  /-- The wait is over at the timeout where sleeps end on time. -/
  prompt : (∀ i, (turns i).late = 0) → ∀ quiet moment, e.outcome = .answered quiet moment →
    moment ≤ w.start + w.timeout
  /-- Where no request comes either, it is over after the smaller of the two times. -/
  undisturbed : (∀ i, (turns i).late = 0 ∧ (turns i).requests = []) → before ≤ w.start →
    e.outcome = .answered (decide (w.quiet ≤ w.timeout)) (w.start + min w.quiet w.timeout)

/-- What holds of a wait that ended. -/
structure Ended (w : Wait) (before : Time.Span) (turns : Nat → Turn) (e : Ending) : Prop where
  /-- The requests during a wait that answers are those around its rounds. -/
  requests : e.outcome ≠ .panicked → e.requests = (upTo turns e.rounds).flatMap Turn.requests
  /-- There were at most two more rounds than requests. -/
  soon : e.rounds ≤ e.requests.length + 2
  /-- It panics just when the clock cannot tell when the timeout is over, or when it will have been
  quiet for long enough after the last request that the last round saw. -/
  panics : e.outcome = .panicked ↔
    w.horizon < deadline w ∨ w.horizon < quietAt w (seen before turns (e.rounds - 1))
  /-- The promise is kept just when the wait does not panic and overlooks no request: one that the
  last round did not see is as long ago as it should be quiet. -/
  promised : Promised w before turns e ↔
    e.outcome ≠ .panicked ∧ ∀ moment, e.outcome = .answered true moment →
      ∀ request ∈ (turns (e.rounds - 1)).between, request + w.quiet ≤ moment

/-- The last round sees the last request or overlooks it. -/
theorem last_request {turns : Nat → Turn} {before : Time.Span}
    (closes : Closes w before (upTo turns (e.rounds - 1)) (turns (e.rounds - 1)) e)
    (answers : e.outcome ≠ .panicked) :
    latest e.requests before ∈
      seen before turns (e.rounds - 1) :: (turns (e.rounds - 1)).between := by
  rw [requests_of_closes closes answers, List.flatMap_append, List.flatMap_singleton, Turn.requests,
    ← List.append_assoc, latest_append, seen_eq]
  exact latest_mem _ _

theorem seen_le_latest {turns : Nat → Turn} {before : Time.Span} (order : InOrder before turns)
    (closes : Closes w before (upTo turns (e.rounds - 1)) (turns (e.rounds - 1)) e)
    (answers : e.outcome ≠ .panicked) :
    seen before turns (e.rounds - 1) ≤ latest e.requests before := by
  have requests := requests_of_closes closes answers
  have ordered : (before :: e.requests).Pairwise (· ≤ ·) := by
    rw [requests, ← upTo_concat]
    exact order _
  refine le_latest ordered ?_
  rw [requests, List.flatMap_append, List.flatMap_singleton, Turn.requests, ← List.append_assoc]
  exact List.mem_append_left (turns (e.rounds - 1)).between (latest_mem _ before)

/-- The promise is kept where no request is overlooked. -/
theorem promised_of_seen {turns : Nat → Turn} {n : Nat} {before : Time.Span}
    (order : InOrder before turns) (course : Course w (upTo turns n) w.start before e)
    (answers : e.outcome ≠ .panicked)
    (noticed : ∀ moment, e.outcome = .answered true moment →
      ∀ request ∈ (turns (e.rounds - 1)).between, request + w.quiet ≤ moment) :
    Promised w before turns e := by
  have closes := closes_upTo course
  have last := last_request closes answers
  constructor
  case answers => exact answers
  case soon => exact (rounds_le_requests course).1
  case quiet =>
    intro moment answered
    cases looks_of_answer closes answered with
    | quiet reached =>
      rw [seen_eq, quietAt, ← Nat.add_max_add_right, Nat.max_le] at reached
      refine ⟨reached.2, ?_⟩
      rcases List.mem_cons.mp last with same | overlooked
      · exact same ▸ reached.1
      · exact noticed moment answered _ overlooked
  case restless =>
    intro moment answered
    cases looks_of_answer closes answered with
    | late early reached =>
      have seen : seen before turns (e.rounds - 1) ≤ latest e.requests before :=
        seen_le_latest order closes answers
      refine ⟨reached, Nat.lt_of_lt_of_le early (Nat.add_le_add_right ?_ _)⟩
      exact Nat.max_le.mpr ⟨Nat.le_trans seen (Nat.le_max_left ..), Nat.le_max_right ..⟩
  case prompt =>
    intro prompt quiet moment answered
    exact moment_le course (Nat.le_add_right ..) (forall_upTo prompt n) answered
  case undisturbed =>
    intro undisturbed earlier
    have target : quietAt w before = w.start + w.quiet := by rw [quietAt, Nat.max_eq_right earlier]
    have seen : seen before turns (e.rounds - 1) = before := by
      rw [QuietWaits.seen, requests_upTo fun i => (undisturbed i).2,
        (List.append_eq_nil_iff.mp (undisturbed _).2).1]
      rfl
    match outcome : e.outcome with
    | .panicked => exact absurd outcome answers
    | .answered quiet moment =>
      have intime : w.start ≤ min (quietAt w before) (deadline w) :=
        target ▸ Nat.le_min.mpr ⟨Nat.le_add_right .., Nat.le_add_right ..⟩
      have moment : moment = w.start + min w.quiet w.timeout := by
        rw [moment_eq course intime (forall_upTo undisturbed n) outcome, target, deadline,
          Nat.add_min_add_left]
      have looks := looks_of_answer closes outcome
      rw [seen_eq, seen, target, deadline, moment] at looks
      subst moment
      cases looks with
      | quiet reached =>
        rw [decide_eq_true (Nat.le_min.mp (Nat.le_of_add_le_add_left reached)).2]
      | late early reached =>
        have more : ¬ w.quiet ≤ w.timeout := fun least => by
          rw [Nat.min_eq_left least] at early
          exact Nat.lt_irrefl _ early
        rw [decide_eq_false more]

/-- A wait with a timeout that the clock can tell, by its last round. -/
theorem ended_of_course {turns : Nat → Turn} {n : Nat} {before : Time.Span}
    (fits : deadline w ≤ w.horizon) (order : InOrder before turns)
    (course : Course w (upTo turns n) w.start before e) : Ended w before turns e := by
  have closes := closes_upTo course
  have rounds : e.rounds - 1 + 1 = e.rounds := Nat.sub_add_cancel (rounds_pos course)
  have requests (answers : e.outcome ≠ .panicked) :
      e.requests = (upTo turns e.rounds).flatMap Turn.requests := by
    rw [requests_of_closes closes answers, ← upTo_concat, rounds]
  constructor
  case requests => exact requests
  case soon => exact (rounds_le_requests course).1
  case panics =>
    rw [panicked_iff closes, seen_eq]
    exact (or_iff_right (Nat.not_lt.mpr fits)).symm
  case promised =>
    refine ⟨fun promised => ⟨promised.answers, ?_⟩, fun kept =>
      promised_of_seen order course kept.1 kept.2⟩
    intro moment answered request overlooked
    have came : request ∈ e.requests := by
      rw [requests_of_closes closes promised.answers]
      simp [Turn.requests, overlooked]
    have ordered : (before :: e.requests).Pairwise (· ≤ ·) :=
      requests promised.answers ▸ order e.rounds
    exact Nat.le_trans (Nat.add_le_add_right (le_latest ordered (List.mem_cons_of_mem _ came)) _)
      (promised.quiet moment answered).2

/-- Whatever requests come, however late its sleeps end and whatever the clock can tell, a wait ends
after a few rounds, and as promised but for two cases. -/
theorem waits_end (w : Wait) (before : Time.Span) (turns : Nat → Turn)
    (order : InOrder before turns) :
    ∃ e, (∀ n, w.run (upTo turns n) before = if e.rounds ≤ n then some e else none) ∧
      Ended w before turns e := by
  by_cases fits : deadline w ≤ w.horizon
  · obtain ⟨n, e, ended⟩ := rounds_end w turns w.start before
    have course := course_of_rounds ended
    refine ⟨e, fun n => ?_, ended_of_course fits order course⟩
    have told : w.deadline? = some (deadline w) := later?_some fits
    rw [Wait.run, told]
    exact rounds_upTo course n
  · have beyond := Nat.lt_of_not_le fits
    have untold : w.deadline? = none := later?_none beyond
    refine ⟨⟨.panicked, 0, []⟩, fun n => ?_, ?_⟩
    · rw [Wait.run, untold, if_pos (Nat.zero_le n)]
    · exact {
        requests := fun answers => absurd rfl answers
        soon := Nat.zero_le _
        panics := iff_of_true rfl (.inl beyond)
        promised := iff_of_false (fun promised => promised.answers rfl) fun kept => kept.1 rfl }

/-- Some turns, after which nothing happens. -/
def listed (turns : List Turn) (i : Nat) : Turn :=
  turns.getD i {}

theorem requests_listed (turns : List Turn) (n : Nat) :
    ((upTo (listed turns) n).flatMap Turn.requests).Sublist (turns.flatMap Turn.requests) := by
  induction turns generalizing n with
  | nil =>
    have silent (i : Nat) : (listed [] i).requests = [] := rfl
    rw [requests_upTo silent]
    exact List.nil_sublist _
  | cons turn rest ih =>
    cases n with
    | zero => exact List.nil_sublist _
    | succ n =>
      rw [upTo_succ, List.flatMap_cons, List.flatMap_cons]
      exact List.Sublist.append (List.Sublist.refl _) (ih n)

theorem inOrder_listed {turns : List Turn} {before : Time.Span}
    (ordered : (before :: turns.flatMap Turn.requests).Pairwise (· ≤ ·)) :
    InOrder before (listed turns) :=
  fun n => ordered.sublist (List.Sublist.cons_cons _ (requests_listed turns n))

/-- The last moment of a clock that counts seconds in 63 bits. -/
def horizon : Time.Span :=
  Time.Span.ofSeconds 9223372036854775807 + 999999999

/-- A wait for thirty milliseconds of quiet that gives up after a second. -/
def brief : Wait where
  start := 0
  quiet := Time.Span.ofMillis 30
  timeout := Time.Span.ofSeconds 1
  horizon := horizon

/-- A request comes while it sleeps, and it wakes up late. -/
def noticed : List Turn :=
  [{}, { before := [Time.Span.ofMillis 20], late := Time.Span.ofMillis 5 }]

theorem noticed_request_puts_off :
    InOrder 0 (listed noticed) ∧
      ∃ e, brief.run (upTo (listed noticed) 3) 0 = some e ∧
        e.outcome = .answered true (Time.Span.ofMillis 50) ∧
        Promised brief 0 (listed noticed) e := by
  have order : InOrder 0 (listed noticed) := inOrder_listed (by decide)
  refine ⟨order, ?_⟩
  obtain ⟨e, runs, ended⟩ := waits_end brief 0 (listed noticed) order
  have run : brief.run (upTo (listed noticed) 3) 0 =
      some ⟨.answered true (Time.Span.ofMillis 50), 3, [Time.Span.ofMillis 20]⟩ := by decide
  have three := runs 3
  rw [run] at three
  split at three <;> cases three
  exact ⟨_, run, rfl, ended.promised.mpr ⟨nofun, fun _ _ request => nofun⟩⟩

/-- A wait that is never to give up. -/
def endless : Wait where
  start := 0
  quiet := 0
  timeout := Time.Span.ofSeconds 18446744073709551615 + 999999999
  horizon := horizon

/-- A request comes as the wait looks at the time. -/
def overlooked : List Turn :=
  [{}, { between := [Time.Span.ofMillis 30] }]

/-- The wait that is never to give up panics, and the one that overlooks a request answers that it
was quiet. -/
theorem waits_break_the_promise :
    (InOrder 0 (listed []) ∧
      ∃ e, endless.run [] 0 = some e ∧ e.outcome = .panicked ∧
        ¬ Promised endless 0 (listed []) e) ∧
    InOrder 0 (listed overlooked) ∧
      ∃ e, brief.run (upTo (listed overlooked) 2) 0 = some e ∧
        e.outcome = .answered true (Time.Span.ofMillis 30) ∧
        ¬ Promised brief 0 (listed overlooked) e := by
  refine ⟨⟨inOrder_listed (by decide), _, rfl, rfl, fun promised => promised.answers rfl⟩,
    inOrder_listed (by decide), _, rfl, rfl, fun promised => ?_⟩
  exact absurd (promised.quiet _ rfl).2 (by decide)

end Wirelog.QuietWaits
