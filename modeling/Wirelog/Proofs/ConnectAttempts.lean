import Wirelog.Proofs.JourneyLaws

/-! Which attempt makes a connection. The addresses of a host stand in a row, round after round, and
one attempt after the other is made until one succeeds; each of the others has left nothing behind
but the time it took and the failure by which the call ends when no attempt is left. A name that
was resolved has an address, so there is an attempt. -/
namespace Wirelog.ConnectAttempts
open Forward JourneyLaws

/-! ## Attempts -/

/-- How an attempt comes out. -/
inductive Outcome where
  /-- There is a connection. -/
  | success
  /-- It is refused for a reason. -/
  | refused (reason : String)
  /-- The limit of the attempt is over. -/
  | late

/-- What the answer to an attempt makes of it. -/
def Outcome.of : Except String Unit → Outcome
  | .ok () => success
  | .error reason => refused reason

/-- What comes of a reply under a limit, if anything ever does. -/
def outcome? (limit : Option Time.Span) (reply : Reply (Except String Unit)) : Option Outcome :=
  match reply.after, limit with
  | some after, some limit => some (if after ≤ limit then .of reply.result else .late)
  | some _, none => some (.of reply.result)
  | none, some _ => some .late
  | none, none => none

/-- The failure of a whole call that an attempt ends. -/
def Outcome.failure? (target : String) (attempts : Nat) : Outcome → Option Failure
  | success => none
  | refused reason => some (.unreachable target attempts reason)
  | late => some (.timeout .connect)

/-- The end of an attempt. -/
def Outcome.attempt (c : Call) : Outcome → Attempt
  | success => .connected
  | refused reason => .missed (c.unreachable reason)
  | late => .missed (.timeout .connect)

variable {c : Call} {net : Network} {clock start : Clock} {d : Dialing} {ip : Net.Ip}
  {addresses ips front : List Net.Ip} {i : Nat} {result : Nat → Outcome}

/-- Without a limit for the request a wait is over when the reply comes or when its own limit is. -/
theorem await_untimed {α : Type} (untimed : clock.limit = none) (limit : Option Time.Span)
    (w : Forward.Wait) (reply : Reply α) :
    clock.await limit w reply = match reply.after, limit with
      | some after, some limit =>
        if after ≤ limit then (clock.pass after, .came reply.result)
        else (clock.pass limit, .expired w)
      | some after, none => (clock.pass after, .came reply.result)
      | none, some limit => (clock.pass limit, .expired w)
      | none, none => (clock, .never) := by
  have left : clock.left = none := by rw [Clock.left, untimed]; rfl
  obtain ⟨came, after⟩ := reply
  cases after with
  | none => cases limit <;> simp [Clock.await, left, Clock.noLater]
  | some after =>
    cases limit with
    | none => simp [Clock.await, left, Clock.noLater]
    | some limit =>
      by_cases inTime : after ≤ limit <;> simp [Clock.await, left, Clock.noLater, inTime]

/-- Without a limit for the request, an attempt ends as it comes out, and takes its time. -/
theorem attempt_untimed (untimed : clock.limit = none) {o : Outcome}
    (comes : outcome? c.limit (net.connect ip c.port i) = some o) :
    ∃ span, c.attempt net clock i ip = (clock.pass span, o.attempt c) := by
  rw [Call.attempt, await_untimed untimed]
  unfold outcome? at comes
  generalize net.connect ip c.port i = reply at comes
  obtain ⟨came, after⟩ := reply
  cases after with
  | none =>
    cases limit : c.limit with
    | none => rw [limit] at comes; cases comes
    | some span => rw [limit] at comes; cases comes; exact ⟨span, rfl⟩
  | some after =>
    cases limit : c.limit with
    | none => rw [limit] at comes; cases comes; exact ⟨after, by cases came <;> rfl⟩
    | some span =>
      rw [limit] at comes
      by_cases inTime : after ≤ span
      · simp only [if_pos inTime] at comes ⊢
        cases comes
        exact ⟨after, by cases came <;> rfl⟩
      · simp only [if_neg inTime] at comes ⊢
        cases comes
        exact ⟨span, rfl⟩

theorem attempt_missed {o : Outcome} (missed : o ≠ .success) (c : Call) :
    ∃ failure, o.attempt c = .missed failure ∧ o.failure? c.target c.rounds = some failure := by
  cases o with
  | success => exact absurd rfl missed
  | refused reason => exact ⟨_, rfl, rfl⟩
  | late => exact ⟨_, rfl, rfl⟩

/-! ## Rows of attempts -/

/-- The addresses in the order of the attempts on them. -/
def row (addresses : List Net.Ip) (rounds : Nat) : List Net.Ip :=
  (List.replicate rounds addresses).flatten

theorem length_row (addresses : List Net.Ip) (rounds : Nat) :
    (row addresses rounds).length = rounds * addresses.length := by
  simp [row]

theorem round_append (c : Call) (net : Network) (front back : List Net.Ip) (d : Dialing) :
    Dialing.round c net (front ++ back) d =
      match Dialing.round c net front d with
      | (d, some result) => (d, some result)
      | (d, none) => Dialing.round c net back d := by
  induction front generalizing d with
  | nil => rfl
  | cons ip front ih =>
    rw [List.cons_append, Dialing.round, Dialing.round]
    cases c.attempt net d.clock d.tried.length ip with
    | mk clock attempt =>
      cases attempt with
      | connected => rfl
      | missed failure => exact ih _
      | stopped stop => rfl

/-- Round after round is one row. -/
theorem run_row (c : Call) (net : Network) (addresses : List Net.Ip) (rounds : Nat) (d : Dialing) :
    Dialing.run c net addresses rounds d =
      match Dialing.round c net (row addresses rounds) d with
      | (d, some result) => (d, result)
      | (d, none) => (d, .error (.failed d.last)) := by
  induction rounds generalizing d with
  | zero => rfl
  | succ rounds ih =>
    rw [Dialing.run, row, List.replicate_succ, List.flatten_cons, round_append]
    cases Dialing.round c net addresses d with
    | mk d ended =>
      cases ended with
      | some result => rfl
      | none => exact ih d

/-- That the attempts on a row come out in a certain way, when some have been made before. -/
def Comes (c : Call) (net : Network) (result : Nat → Outcome) (made : Nat)
    (ips : List Net.Ip) : Prop :=
  ∀ i ip, ips[i]? = some ip →
    outcome? c.limit (net.connect ip c.port (made + i)) = some (result (made + i))

/-- What holds between attempts: time has passed since the first, and the failure of the last is
kept. -/
structure Between (c : Call) (result : Nat → Outcome) (start : Clock) (d : Dialing) : Prop where
  passed : ∃ span, d.clock = start.pass span
  last : d.tried ≠ [] →
    (result (d.tried.length - 1)).failure? c.target c.rounds = some d.last

theorem comes_tail (comes : Comes c net result i (ip :: ips)) : Comes c net result (i + 1) ips := by
  intro n other there
  rw [Nat.add_right_comm i 1 n]
  exact comes (n + 1) other there

theorem pass_pass (clock : Clock) (a b : Time.Span) :
    (clock.pass a).pass b = clock.pass (a + b) := by
  simp only [Clock.pass, Nat.add_assoc]

/-- One attempt between others: it takes its time and comes out. -/
theorem attempt_between (between : Between c result start d) (untimed : start.limit = none)
    (comes : outcome? c.limit (net.connect ip c.port d.tried.length) =
      some (result d.tried.length)) :
    ∃ span, c.attempt net d.clock d.tried.length ip =
      (start.pass span, (result d.tried.length).attempt c) := by
  obtain ⟨before, passed⟩ := between.passed
  have still : d.clock.limit = none := by rw [passed]; exact untimed
  obtain ⟨span, comes⟩ := attempt_untimed still comes
  exact ⟨before + span, by rw [comes, passed, pass_pass]⟩

/-- A row of attempts that all miss is gone through to its end. -/
theorem round_misses (untimed : start.limit = none) (between : Between c result start d)
    (comes : Comes c net result d.tried.length ips)
    (missed : ∀ n, n < ips.length → result (d.tried.length + n) ≠ .success) :
    ∃ d', Dialing.round c net ips d = (d', none) ∧ d'.tried = d.tried ++ ips ∧
      Between c result start d' := by
  induction ips generalizing d with
  | nil => exact ⟨d, rfl, (List.append_nil _).symm, between⟩
  | cons ip ips ih =>
    obtain ⟨span, attempt⟩ := attempt_between between untimed (comes 0 ip rfl)
    obtain ⟨failure, ends, fails⟩ := attempt_missed (missed 0 (Nat.zero_lt_succ _)) c
    -- The rest is counted from one attempt more, and the failure of this one is the last so far.
    have next : Between c result start
        { clock := start.pass span, tried := d.tried ++ [ip], last := failure } :=
      ⟨⟨span, rfl⟩, fun _ => by simpa using fails⟩
    have further (n) (inside : n < ips.length) :
        result ((d.tried ++ [ip]).length + n) ≠ .success := by
      have := missed (n + 1) (Nat.succ_lt_succ inside)
      rwa [List.length_append, List.length_singleton, Nat.add_right_comm]
    have onward : Comes c net result (d.tried ++ [ip]).length ips := by
      rw [List.length_append]
      exact comes_tail comes
    obtain ⟨d', gone, tried, between⟩ := ih next onward further
    refine ⟨d', ?_, by rw [tried, List.append_assoc]; rfl, between⟩
    rw [Dialing.round, attempt, show (result d.tried.length).attempt c = .missed failure from ends]
    exact gone

/-- The first success in a row is its end. -/
theorem round_connects (untimed : start.limit = none) (between : Between c result start d)
    (comes : Comes c net result d.tried.length (front ++ [ip]))
    (missed : ∀ n, n < front.length → result (d.tried.length + n) ≠ .success)
    (connected : result (d.tried.length + front.length) = .success) (back : List Net.Ip) :
    ∃ d', Dialing.round c net (front ++ ip :: back) d = (d', some (.ok ip)) ∧
      d'.tried = d.tried ++ (front ++ [ip]) ∧ ∃ span, d'.clock = start.pass span := by
  have own : Comes c net result d.tried.length front := by
    intro n other there
    obtain ⟨inside, -⟩ := List.getElem?_eq_some_iff.mp there
    exact comes n other ((List.getElem?_append_left inside).trans there)
  obtain ⟨d', gone, tried, between⟩ := round_misses untimed between own missed
  have made : d'.tried.length = d.tried.length + front.length := by
    rw [tried, List.length_append]
  have here := comes front.length ip (by simp)
  rw [← made] at here connected
  obtain ⟨span, attempt⟩ := attempt_between between untimed here
  refine ⟨{ d' with clock := start.pass span, tried := d'.tried ++ [ip] }, ?_, ?_, span, rfl⟩
  · rw [round_append, gone]
    dsimp only
    rw [Dialing.round, attempt, connected]
    rfl
  · rw [tried, List.append_assoc]

/-! ## Calls -/

theorem between_first (c : Call) (result : Nat → Outcome) (start : Clock) (last : Failure) :
    Between c result start { clock := start, last } :=
  ⟨⟨0, rfl⟩, fun none => absurd rfl none⟩

/-- A call with a success in its row ends with the first one. -/
theorem dial_connects (untimed : start.limit = none)
    (there : (row addresses c.rounds)[i]? = some ip)
    (comes : Comes c net result 0 ((row addresses c.rounds).take (i + 1)))
    (success : result i = .success)
    (missed : ∀ n, n < i → result n ≠ .success) :
    ∃ d, c.dial net start addresses = (d, .ok ip) ∧
      d.tried = (row addresses c.rounds).take (i + 1) ∧ ∃ span, d.clock = start.pass span := by
  obtain ⟨inside, rfl⟩ := List.getElem?_eq_some_iff.mp there
  rw [Call.dial, run_row]
  generalize row addresses c.rounds = ips at comes inside
  -- What is behind the success is never tried, so nothing is known of how it would come out.
  have parts : ips.take i ++ ips[i] :: ips.drop (i + 1) = ips := by
    rw [List.getElem_cons_drop, List.take_append_drop]
  have before : (ips.take i).length = i := List.length_take_of_le (Nat.le_of_lt inside)
  rw [← List.take_append_getElem inside] at comes ⊢
  obtain ⟨d, gone, tried, passed⟩ := round_connects untimed
    (between_first c result start (c.unreachable "no addresses")) comes
    (fun n early => by simpa using missed n (before ▸ early)) (by simpa [before] using success)
    (ips.drop (i + 1))
  rw [parts] at gone
  rw [gone]
  exact ⟨d, rfl, tried, passed⟩

/-- A call without a success goes through its row and fails as the last attempt of it. -/
theorem dial_fails (untimed : start.limit = none)
    (comes : Comes c net result 0 (row addresses c.rounds)) (some : row addresses c.rounds ≠ [])
    (missed : ∀ n, n < (row addresses c.rounds).length → result n ≠ .success) :
    ∃ d, c.dial net start addresses = (d, .error (.failed d.last)) ∧
      d.tried = row addresses c.rounds ∧ (∃ span, d.clock = start.pass span) ∧
      (result ((row addresses c.rounds).length - 1)).failure? c.target c.rounds = .some d.last := by
  rw [Call.dial, run_row]
  obtain ⟨d, gone, tried, between⟩ := round_misses untimed (between_first c result start _) comes
    fun n inside => by simpa using missed n inside
  have tried : d.tried = row addresses c.rounds := tried
  rw [gone]
  rw [← tried] at some ⊢
  exact ⟨d, rfl, rfl, between.passed, between.last some⟩

/-! ## Addresses -/

/-- That no name is remembered without an address. -/
def Stocked (b : Resolution.Book) : Prop :=
  ∀ x ∈ b.entries, x.2.addresses ≠ []

theorem answer_addressed {b : Resolution.Book} (stocked : Stocked b) {now : Time.Span}
    {host : String} {port : Nat} {r : Resolution.Resolved}
    (answer : b.answer? now host port = some r) : r.addresses ≠ [] := by
  rw [Resolution.Book.answer?] at answer
  split at answer
  · cases answer
    exact List.cons_ne_nil _ _
  · obtain ⟨ips, known, rfl⟩ := Option.map_eq_some_iff.mp answer
    obtain ⟨e, found, rfl⟩ := Option.map_eq_some_iff.mp known
    obtain ⟨x, member, rfl⟩ := Option.map_eq_some_iff.mp (Option.filter_eq_some_iff.mp found).1
    exact stocked x (List.mem_of_find?_eq_some member)

theorem accept_addressed {b : Resolution.Book} (stocked : Stocked b) (now : Time.Span)
    (host : String) (port : Nat) (found : Resolution.Lookup) :
    Stocked (b.accept now host port found).1 ∧
      ∀ r, (b.accept now host port found).2 = .ok r → r.addresses ≠ [] := by
  cases found with
  | failed reason => exact ⟨stocked, nofun⟩
  | found ips =>
    cases ips with
    | nil => exact ⟨stocked, nofun⟩
    | cons ip ips =>
      refine ⟨?_, fun r answer => by cases answer; exact List.cons_ne_nil _ _⟩
      simp only [Resolution.Book.accept, Resolution.Book.remember]
      split
      · exact stocked
      · intro x member
        rcases List.mem_append.mp member with old | new
        · exact stocked x (List.mem_filter.mp old).1
        · rw [List.mem_singleton.mp new]
          exact List.cons_ne_nil _ _

/-- A host that is resolved has an address. -/
theorem resolve_addressed {net : Network} {host : String} {port : Nat} {r : Resolution.Resolved}
    {j k : Journey} (stocked : Stocked j.book)
    (resolved : (Send.resolve net host port).run.run j = (.ok r, k)) :
    r.addresses ≠ [] ∧ Stocked k.book := by
  rw [Send.resolve, run_get] at resolved
  cases answer : j.book.answer? j.clock.now host port with
  | some known =>
    rw [answer] at resolved
    cases resolved
    exact ⟨answer_addressed stocked answer, stocked⟩
  | none =>
    rw [answer] at resolved
    dsimp only at resolved
    rw [run_bind, run_wait] at resolved
    generalize j.clock.await none .request (net.lookup host) = ended at resolved
    obtain ⟨clock, awaited⟩ := ended
    cases awaited with
    | expired w => cases resolved
    | never => cases resolved
    | came found =>
      obtain ⟨after, addressed⟩ := accept_addressed stocked clock.now host port found
      dsimp only at resolved
      rw [run_get] at resolved
      dsimp only at resolved
      generalize j.book.accept clock.now host port found = accepted at resolved after addressed
      obtain ⟨book, result⟩ := accepted
      cases result with
      | error failure => cases resolved
      | ok other =>
        cases resolved
        exact ⟨addressed _ rfl, after⟩

/-! ## Connecting -/

/-- That a host has been resolved and its attempts begin, with less than the greatest number of
retries and no limit for the request, which would stop them from outside. -/
structure Begins (net : Network) (o : Options) (host : String) (port : Nat) (j : Journey)
    (r : Resolution.Resolved) (k : Journey) : Prop where
  resolved : (Send.resolve net host port).run.run j = (.ok r, k)
  some : r.addresses ≠ []
  untimed : k.clock.limit = none
  few : o.retries.toNat < UInt32.size - 1

/-- The addresses of all attempts that options allow. -/
def allowed (o : Options) (addresses : List Net.Ip) : List Net.Ip :=
  row addresses (o.retries.toNat + 1)

/-- How an attempt comes out, if it does. -/
def outcomeAt (net : Network) (o : Options) (port : Nat) (addresses : List Net.Ip) (i : Nat) :
    Option Outcome :=
  (allowed o addresses)[i]?.bind fun ip => outcome? o.connectLimit (net.connect ip port i)

/-- That an attempt comes out without a connection. -/
def Misses (net : Network) (o : Options) (port : Nat) (addresses : List Net.Ip) (i : Nat) : Prop :=
  ∃ other, outcomeAt net o port addresses i = some other ∧ other ≠ .success

/-- How a connection is made. -/
structure Connecting (net : Network) (o : Options) (host : String) (port : Nat) (j : Journey) :
    Prop where
  /-- Without addresses there is no attempt. -/
  unresolved : ∀ why k, (Send.resolve net host port).run.run j = (.error why, k) →
    (Send.connect net o host port).run.run j = (.error why, k)
  /-- There are addresses as long as no name is remembered without, and that stays so. -/
  addressed : Stocked j.book → ∀ r k, (Send.resolve net host port).run.run j = (.ok r, k) →
    r.addresses ≠ [] ∧ Stocked k.book
  /-- The first attempt that succeeds makes the connection; its address is recorded, with the time
  since the first attempt, and no further one is tried. -/
  connects : ∀ r k, Begins net o host port j r k →
    ∀ i, outcomeAt net o port r.addresses i = some .success →
      (∀ n, n < i → Misses net o port r.addresses n) →
      ∃ ip span, (allowed o r.addresses)[i]? = some ip ∧
        (Send.connect net o host port).run.run j =
          (.ok { address := ip, port }, { k with
            clock := k.clock.pass span
            tried := k.tried ++ (allowed o r.addresses).take (i + 1)
            timings := { k.timings with connect := some span, server := some ip } })
  /-- When none succeeds, each address has been tried in each round, and the last attempt counts. -/
  fails : ∀ r k, Begins net o host port j r k →
    (∀ n, n < (o.retries.toNat + 1) * r.addresses.length → Misses net o port r.addresses n) →
    ∃ span last failure,
      outcomeAt net o port r.addresses ((o.retries.toNat + 1) * r.addresses.length - 1) =
        some last ∧
      last.failure? (host ++ ":" ++ Text.natText port) (o.retries.toNat + 1) = some failure ∧
      (Send.connect net o host port).run.run j =
        (.error (.failed failure), { k with
          clock := k.clock.pass span
          tried := k.tried ++ allowed o r.addresses })

section Attempts

variable {o : Options} {host : String} {port : Nat} {j k : Journey} {r : Resolution.Resolved}

/-- The call that options make to a host. -/
def callOf (o : Options) (host : String) (port : Nat) : Call :=
  { host, port, rounds := o.retries.toNat + 1, limit := o.connectLimit }

/-- Outcomes by their numbers, where the attempts have any. -/
def outcomes (net : Network) (o : Options) (port : Nat) (addresses : List Net.Ip) (i : Nat) :
    Outcome :=
  (outcomeAt net o port addresses i).getD .success

theorem run_begins (begins : Begins net o host port j r k) :
    (Send.connect net o host port).run.run j =
      dialed port k ((callOf o host port).dial net k.clock r.addresses) := by
  have rounds : rounds o.retries = o.retries.toNat + 1 := Nat.min_eq_left begins.few
  rw [run_connect begins.resolved o, rounds]
  rfl

/-- The first attempts come out where they do. -/
theorem comes_front {count : Nat}
    (some : ∀ n, n < count → ∃ other, outcomeAt net o port addresses n = some other) :
    Comes (callOf o host port) net (outcomes net o port addresses) 0
      ((allowed o addresses).take count) := by
  intro n ip there
  rw [List.getElem?_take] at there
  split at there
  · obtain ⟨other, comes⟩ := some n ‹_›
    rw [Nat.zero_add, outcomes, comes, Option.getD_some]
    rwa [outcomeAt, there, Option.bind_some] at comes
  · cases there

theorem outcomes_of_misses (misses : Misses net o port addresses i) :
    outcomes net o port addresses i ≠ .success := by
  obtain ⟨other, comes, missed⟩ := misses
  rwa [outcomes, comes, Option.getD_some]

end Attempts

/-- A connection is made by the first attempt that succeeds, addresses in order, round after round;
without one it fails as the last attempt did. -/
theorem first_success_connects (net : Network) (o : Options) (host : String) (port : Nat)
    (j : Journey) : Connecting net o host port j := by
  constructor
  case unresolved =>
    intro why k failed
    rw [Send.connect, run_bind, failed]
  case addressed =>
    exact fun stocked r k resolved => resolve_addressed stocked resolved
  case connects =>
    intro r k begins i success missed
    obtain ⟨ip, there, -⟩ := Option.bind_eq_some_iff.mp success
    have come (n) (early : n < i + 1) :
        ∃ other, outcomeAt net o port r.addresses n = some other := by
      rcases Nat.lt_succ_iff_lt_or_eq.mp early with before | rfl
      · obtain ⟨other, comes, -⟩ := missed n before
        exact ⟨other, comes⟩
      · exact ⟨_, success⟩
    obtain ⟨d, dials, tried, span, passed⟩ := dial_connects (c := callOf o host port)
      begins.untimed there (comes_front come) (by rw [outcomes, success]; rfl)
      fun n before => outcomes_of_misses (missed n before)
    refine ⟨ip, span, there, ?_⟩
    rw [run_begins begins, dials, dialed, passed, tried]
    simp only [Clock.pass, Nat.add_sub_cancel_left]
    rfl
  case fails =>
    intro r k begins missed
    have length : (allowed o r.addresses).length = (o.retries.toNat + 1) * r.addresses.length :=
      length_row r.addresses (o.retries.toNat + 1)
    have positive : 0 < (allowed o r.addresses).length :=
      length ▸ Nat.mul_pos (Nat.succ_pos _) (List.length_pos_iff.mpr begins.some)
    rw [← length] at missed ⊢
    have comes : Comes (callOf o host port) net (outcomes net o port r.addresses) 0
        (allowed o r.addresses) := by
      rw [← List.take_length (l := allowed o r.addresses)]
      exact comes_front fun n inside => (missed n inside).imp fun _ => And.left
    obtain ⟨d, dials, tried, ⟨span, passed⟩, failed⟩ := dial_fails (c := callOf o host port)
      begins.untimed comes (List.length_pos_iff.mp positive)
      fun n inside => outcomes_of_misses (missed n inside)
    obtain ⟨last, ends, -⟩ := missed _ (Nat.sub_one_lt_of_lt positive)
    have same : outcomes net o port r.addresses ((allowed o r.addresses).length - 1) = last := by
      rw [outcomes, ends, Option.getD_some]
    refine ⟨span, last, d.last, ends, same ▸ failed, ?_⟩
    rw [run_begins begins, dials, dialed, passed, tried]
    rfl

/-- Of two addresses one refuses and the other keeps silent; in the second round the first one
accepts. -/
theorem second_round_connects :
    let one := Net.Ip.v4 10 0 0 1
    let two := Net.Ip.v4 10 0 0 2
    let net : Network := { Network.unplugged with
      connect := fun ip _ made =>
        if made = 2 then ⟨.ok (), some 0⟩
        else ⟨.error "Connection refused (os error 111)", if ip = one then some 0 else none⟩ }
    let book : Resolution.Book := { lifetime := 1, entries := [("h", ⟨[one, two], 0⟩)] }
    let j : Journey := {
      book, passage := { recorder := {}, handling := {}, message := { uri := {} } } }
    ∃ k, (Send.connect net { retries := 1 } "h" 80).run.run j =
        (.ok { address := one, port := 80 }, k) ∧
      k.tried = [one, two, one] ∧ k.timings.server = some one := by
  intro one two net book j
  have known : j.book.answer? j.clock.now "h" 80 =
      some { addresses := [one, two], port := 80, cached := true } := by decide +kernel
  have begins : Begins net { retries := 1 } "h" 80 j
      { addresses := [one, two], port := 80, cached := true } j := by
    constructor
    case resolved => rw [Send.resolve, run_get, known]; rfl
    case some => exact List.cons_ne_nil _ _
    case untimed => rfl
    case few => decide
  have early (n) (before : n < 2) : Misses net { retries := 1 } 80 [one, two] n := by
    match n with
    | 0 => exact ⟨.refused _, rfl, nofun⟩
    | 1 => exact ⟨.late, rfl, nofun⟩
    | n + 2 => omega
  obtain ⟨ip, span, there, connects⟩ :=
    (first_success_connects net { retries := 1 } "h" 80 j).connects _ _ begins 2 rfl early
  cases there
  exact ⟨_, connects, rfl, rfl⟩

end Wirelog.ConnectAttempts
