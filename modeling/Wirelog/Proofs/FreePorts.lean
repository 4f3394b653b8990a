import Wirelog.Authority.Numbered
import Wirelog.Fleet.Basic
import Wirelog.Proofs.AcceptedSettings

/-! Which port a proxy gets that asks for none. A search goes through the range of its settings and
has a proxy start on each port where none is registered; a port in use sends the search on, and
whatever else comes of a start is its end. So a proxy starts where the smallest port is that is
free. To the system port zero is any port, though, and settings accept a range that begins with it:
a search that takes port zero ends with a port that the system chooses, from the range or not. -/
namespace Wirelog.FreePorts
open Gateway Fleet AcceptedSettings

variable {f : Fleet} {m m' : Machine} {s : Settings} {address : Net.Ip} {relay : Option String}
  {p q : UInt16} {ports passed rest : List UInt16} {place : Place} {o : Order}

/-! ## Starts -/

/-- What a start comes to that has nothing left to do but take its port. -/
def takes (g : Gateway) (place : Place) : Bound → Except StartFailure (Gateway × UInt16)
  | .listening port => .ok (g, port)
  | .inUse => .error (.inUse place.text)
  | .refused reason => .error (.noPort place.text reason)

/-- The authority is opened without a look at the ports. -/
theorem openAuthority_rebound (m : Machine) (i : Settings.Interception)
    (bind : Net.Ip → UInt16 → Bound) :
    openAuthority { m with bind } i =
      ({ (openAuthority m i).1 with bind }, (openAuthority m i).2) := by
  simp only [openAuthority]
  repeat' split
  all_goals rfl

theorem openAuthority_no_port (m : Machine) (i : Settings.Interception) (text : String) :
    (openAuthority m i).2 ≠ .error (.inUse text) := by
  simp only [openAuthority]
  repeat' split
  all_goals
    intro same
    cases same

/-- A start either fails before it asks for its port, or it does as the system answers. -/
theorem start_cases (m : Machine) (s : Settings) (place : Place) :
    (∃ (m' : Machine) (e : StartFailure), (∀ text, e ≠ .inUse text) ∧
        ∀ bind, start { m with bind } s place = ({ m' with bind }, .error e)) ∨
      ∃ (m' : Machine) (g : Gateway), ∀ bind, start { m with bind } s place =
        ({ m' with bind }, takes g place (bind place.address place.port)) := by
  cases settled : ofSettings s place.relay with
  | error e =>
    refine .inl ⟨m, e, ?_, fun bind => by simp only [start, settled]⟩
    rintro text rfl
    obtain ⟨r, refused⟩ := ofSettings_error settled
    cases refused
  | ok g =>
    cases opened : openAuthority m s.interception with
    | mk m' r =>
      have rebound (bind) : openAuthority { m with bind } s.interception = ({ m' with bind }, r) :=
        by rw [openAuthority_rebound, opened]
      cases r with
      | error e =>
        refine .inl ⟨m', e, ?_, fun bind => by simp only [start, settled, rebound]⟩
        rintro text rfl
        exact openAuthority_no_port m s.interception text (congrArg Prod.snd opened)
      | ok authority =>
        refine .inr ⟨m', { g with authority }, fun bind => ?_⟩
        simp only [start, settled, rebound]
        cases bind place.address place.port <;> rfl

theorem start_binds {r : Except StartFailure (Gateway × UInt16)}
    (comes : start m s place = (m', r)) : m'.bind = m.bind := by
  obtain ⟨after, e, -, whole⟩ | ⟨after, g, whole⟩ := start_cases m s place
  · exact congrArg (·.1.bind) (comes.symm.trans (whole m.bind))
  · exact congrArg (·.1.bind) (comes.symm.trans (whole m.bind))

/-- Of the system a start needs no more than the answer for its own port. -/
theorem start_rebound {bind : Net.Ip → UInt16 → Bound}
    (same : bind place.address place.port = m.bind place.address place.port) :
    start { m with bind } s place = ({ (start m s place).1 with bind }, (start m s place).2) := by
  obtain ⟨m', e, -, whole⟩ | ⟨m', g, whole⟩ := start_cases m s place
  · have before : start m s place = _ := whole m.bind
    rw [whole bind, before]
  · have before : start m s place = _ := whole m.bind
    rw [whole bind, before, same]

theorem bind_of_inUse {text : String} (failed : (start m s place).2 = .error (.inUse text)) :
    m.bind place.address place.port = .inUse := by
  obtain ⟨m', e, other, whole⟩ | ⟨m', g, whole⟩ := start_cases m s place
  · cases failed.symm.trans (congrArg Prod.snd (whole m.bind))
    exact absurd rfl (other text)
  · have taken := failed.symm.trans (congrArg Prod.snd (whole m.bind))
    cases answer : m.bind place.address place.port with
    | inUse => rfl
    | listening port => rw [answer] at taken; cases taken
    | refused reason => rw [answer] at taken; cases taken

theorem bind_of_started {g : Gateway} {port : UInt16}
    (started : (start m s place).2 = .ok (g, port)) :
    m.bind place.address place.port = .listening port := by
  obtain ⟨m', e, -, whole⟩ | ⟨m', g, whole⟩ := start_cases m s place
  · cases started.symm.trans (congrArg Prod.snd (whole m.bind))
  · have taken := started.symm.trans (congrArg Prod.snd (whole m.bind))
    cases answer : m.bind place.address place.port with
    | inUse => rw [answer] at taken; cases taken
    | listening other => rw [answer] at taken; cases taken; rfl
    | refused reason => rw [answer] at taken; cases taken

/-! ## Searches -/

/-- That a proxy is registered on a port, or that the port is in use on an address. -/
def Taken (f : Fleet) (m : Machine) (address : Net.Ip) (p : UInt16) : Prop :=
  (f.get? p).isSome ∨ m.bind address p = .inUse

/-- That a search leaves a row of ports behind, with the machine before and after it: on each port
there is a proxy, or a start finds it in use. -/
inductive Passes (f : Fleet) (s : Settings) (address : Net.Ip) (relay : Option String) :
    Machine → List UInt16 → Machine → Prop
  | nothing (m : Machine) : Passes f s address relay m [] m
  | registered {m m' : Machine} {p : UInt16} {rest : List UInt16} (there : (f.get? p).isSome)
    (onward : Passes f s address relay m rest m') : Passes f s address relay m (p :: rest) m'
  | inUse {m between m' : Machine} {p : UInt16} {rest : List UInt16} {text : String}
    (absent : f.get? p = none)
    (failed : start m s { address, port := p, relay } = (between, .error (.inUse text)))
    (onward : Passes f s address relay between rest m') :
    Passes f s address relay m (p :: rest) m'

/-- That a search is over at a port when it comes there. -/
structure EndsAt (f : Fleet) (s : Settings) (address : Net.Ip) (relay : Option String)
    (m : Machine) (p : UInt16) : Prop where
  absent : f.get? p = none
  decided : ∀ text, (start m s { address, port := p, relay }).2 ≠ .error (.inUse text)

/-- What a search answers that is over with a start. -/
def answered (address : Net.Ip) :
    Machine × Except StartFailure (Gateway × UInt16) → Machine × Except Failure Member
  | (m, .ok r) => (m, .ok (Fleet.started address r))
  | (m, .error e) => (m, .error (.start e))

theorem search_passes (passes : Passes f s address relay m passed m') (none : Failure)
    (rest : List UInt16) :
    f.startOnFirst s address relay none (passed ++ rest) m =
      f.startOnFirst s address relay none rest m' := by
  induction passes with
  | nothing m => rfl
  | registered there onward ih => rw [List.cons_append, startOnFirst, if_pos there, ih]
  | inUse absent failed onward ih =>
    rw [List.cons_append, startOnFirst, absent, if_neg (by decide), failed]
    exact ih

theorem search_ends (ends : EndsAt f s address relay m p) (none : Failure) (rest : List UInt16) :
    f.startOnFirst s address relay none (p :: rest) m =
      answered address (start m s { address, port := p, relay }) := by
  rw [startOnFirst, ends.absent, if_neg (by decide)]
  have decided := ends.decided
  cases comes : start m s { address, port := p, relay } with
  | mk m' r =>
    rw [comes] at decided
    match r with
    | .ok r => rfl
    | .error (.inUse text) => exact absurd rfl (decided text)
    | .error (.rule _) | .error (.setting _) | .error .oneFile | .error (.authority _)
    | .error (.noPort _ _) => rfl

/-- A search leaves all ports behind, or it is over at one of them. -/
theorem search_cases (f : Fleet) (s : Settings) (address : Net.Ip) (relay : Option String)
    (ports : List UInt16) (m : Machine) :
    (∃ m', Passes f s address relay m ports m') ∨
      ∃ passed p rest m', ports = passed ++ p :: rest ∧ Passes f s address relay m passed m' ∧
        EndsAt f s address relay m' p := by
  induction ports generalizing m with
  | nil => exact .inl ⟨m, .nothing m⟩
  | cons p ports ih =>
    cases there : f.get? p with
    | some member =>
      have there : (f.get? p).isSome := by rw [there]; rfl
      obtain ⟨m', onward⟩ | ⟨passed, q, rest, m', rfl, onward, ends⟩ := ih m
      · exact .inl ⟨m', .registered there onward⟩
      · exact .inr ⟨p :: passed, q, rest, m', rfl, .registered there onward, ends⟩
    | none =>
      -- Only a port in use sends the search on, and the machine that its start leaves goes along.
      by_cases inUse : ∃ text, (start m s { address, port := p, relay }).2 = .error (.inUse text)
      · obtain ⟨text, inUse⟩ := inUse
        have failed : start m s { address, port := p, relay } = (_, .error (.inUse text)) :=
          Prod.ext rfl inUse
        obtain ⟨m', onward⟩ | ⟨passed, q, rest, m', rfl, onward, ends⟩ := ih _
        · exact .inl ⟨m', .inUse there failed onward⟩
        · exact .inr ⟨p :: passed, q, rest, m', rfl, .inUse there failed onward, ends⟩
      · exact .inr ⟨[], p, ports, m, rfl, .nothing m, there, not_exists.mp inUse⟩

theorem passes_binds (passes : Passes f s address relay m passed m') : m'.bind = m.bind := by
  induction passes with
  | nothing m => rfl
  | registered there onward ih => exact ih
  | inUse absent failed onward ih => exact ih.trans (start_binds failed)

/-- What a search leaves behind is taken. -/
theorem taken_of_passes (passes : Passes f s address relay m passed m') :
    ∀ p ∈ passed, Taken f m address p := by
  induction passes with
  | nothing m => nofun
  | registered there onward ih => exact List.forall_mem_cons.mpr ⟨.inl there, ih⟩
  | @inUse m between m' p rest text absent failed onward ih =>
    have kept := start_binds failed
    refine List.forall_mem_cons.mpr ⟨.inr (bind_of_inUse (congrArg Prod.snd failed)), ?_⟩
    exact fun q member => (ih q member).imp_right (kept ▸ ·)

/-- Of the system a row that is left behind needs the answers for its own ports. -/
theorem passes_rebound (passes : Passes f s address relay m passed m')
    {bind : Net.Ip → UInt16 → Bound} (same : ∀ q ∈ passed, bind address q = m.bind address q) :
    Passes f s address relay { m with bind } passed { m' with bind } := by
  induction passes with
  | nothing m => exact .nothing _
  | registered there onward ih =>
    exact .registered there (ih fun q member => same q (.tail _ member))
  | @inUse m between m' p rest text absent failed onward ih =>
    have again : start { m with bind } s { address, port := p, relay } = _ :=
      start_rebound (same p (.head _))
    rw [failed] at again
    have kept := start_binds failed
    exact .inUse absent again (ih fun q member => kept ▸ same q (.tail _ member))

/-! ## Ranges -/

/-- The ports from one on to another, without the last. -/
def below (first p : UInt16) : List UInt16 :=
  (List.range' first.toNat (p.toNat - first.toNat)).map UInt16.ofNat

theorem mem_below {first : UInt16} : q ∈ below first p ↔ first ≤ q ∧ q < p := by
  simp only [below, List.mem_map, List.mem_range'_1, UInt16.le_iff_toNat_le,
    UInt16.lt_iff_toNat_lt]
  constructor
  · rintro ⟨n, ⟨low, high⟩, rfl⟩
    have small : n < 2 ^ 16 := by have := p.toNat_lt; omega
    rw [UInt16.toNat_ofNat_of_lt' small]
    omega
  · rintro ⟨low, high⟩
    exact ⟨q.toNat, by omega, UInt16.ofNat_toNat⟩

/-- A range is made of what is below one of its ports, the port, and a rest. -/
theorem range_at {first last : UInt16} (low : first ≤ p) (high : p ≤ last) :
    ∃ rest, range first last = below first p ++ p :: rest := by
  have low := UInt16.le_iff_toNat_le.mp low
  have high := UInt16.le_iff_toNat_le.mp high
  have count : last.toNat + 1 - first.toNat =
      (p.toNat - first.toNat) + ((last.toNat - p.toNat) + 1) := by omega
  refine ⟨(List.range' (p.toNat + 1) (last.toNat - p.toNat)).map UInt16.ofNat, ?_⟩
  rw [range, count, ← List.range'_append_1, List.map_append, Nat.add_sub_cancel' low,
    List.range'_succ, List.map_cons, UInt16.ofNat_toNat]
  rfl

/-- The only way to take a range apart at a port is at what is below the port. -/
theorem below_of_range {first last : UInt16} (parts : range first last = passed ++ p :: rest) :
    passed = below first p ∧ first ≤ p ∧ p ≤ last := by
  obtain ⟨front, back, split, rfl, onward⟩ := List.map_eq_append_iff.mp parts
  obtain ⟨count, -, rfl, rfl⟩ := List.range'_eq_append_iff.mp split
  obtain ⟨n, later, split, rfl, -⟩ := List.map_eq_cons_iff.mp onward
  obtain ⟨place, more, -⟩ := List.range'_eq_cons_iff.mp split
  -- The last port is a number of 16 bits, so no number of the range is lost in its port.
  have small : n < 2 ^ 16 := by have := last.toNat_lt; omega
  rw [UInt16.le_iff_toNat_le, UInt16.le_iff_toNat_le, below, UInt16.toNat_ofNat_of_lt' small]
  refine ⟨?_, by omega, by omega⟩
  rw [show n - first.toNat = count by omega]

theorem mem_range {first last : UInt16} : p ∈ range first last ↔ first ≤ p ∧ p ≤ last := by
  constructor
  · intro member
    obtain ⟨passed, rest, parts⟩ := List.append_of_mem member
    exact (below_of_range parts).2
  · rintro ⟨low, high⟩
    obtain ⟨rest, parts⟩ := range_at low high
    rw [parts]
    exact List.mem_append_right _ (.head _)

/-! ## Creations -/

/-- The settings that an order goes by. -/
def settingsOf (f : Fleet) (o : Order) : Settings :=
  o.settings.getD f.defaults

/-- The address on which an order takes its port. -/
def addressOf (f : Fleet) (o : Order) : Net.Ip :=
  o.address.getD (settingsOf f o).listening.bind

/-- That a port is within the range of settings. -/
def InRange (s : Settings) (p : UInt16) : Prop :=
  s.listening.firstPort ≤ p ∧ p ≤ s.listening.lastPort

instance : Decidable (InRange s p) :=
  inferInstanceAs (Decidable (_ ∧ _))

/-- That a port is the smallest of the range that is not taken. -/
structure FirstFree (f : Fleet) (m : Machine) (o : Order) (p : UInt16) : Prop where
  inRange : InRange (settingsOf f o) p
  free : ¬ Taken f m (addressOf f o) p
  least : ∀ q, InRange (settingsOf f o) q → q < p → Taken f m (addressOf f o) q

/-- The start on a port. -/
def startAt (f : Fleet) (o : Order) (m : Machine) (p : UInt16) :
    Machine × Except StartFailure (Gateway × UInt16) :=
  start m (settingsOf f o) { address := addressOf f o, port := p, relay := o.relay }

/-- That the search of an order leaves the range behind up to a port, and is over there. -/
structure Decides (f : Fleet) (m : Machine) (o : Order) (p : UInt16) (m' : Machine) : Prop where
  readable : Readable o.relay
  inRange : InRange (settingsOf f o) p
  passes : Passes f (settingsOf f o) (addressOf f o) o.relay m
    (below (settingsOf f o).listening.firstPort p) m'
  ends : EndsAt f (settingsOf f o) (addressOf f o) o.relay m' p

/-- The failures of an order but the want of a free port: the address of the other proxy cannot be
read, or the start where the search is over fails. -/
inductive Fails (f : Fleet) (m : Machine) (o : Order) : Failure → Prop
  | unreadable {r : Refusal} (failed : Forward.Options.relay? o.relay = .error r) :
    Fails f m o (.relay r)
  | start {p : UInt16} {m' : Machine} {e : StartFailure} (decides : Decides f m o p m')
    (failed : (startAt f o m' p).2 = .error e) : Fails f m o (.start e)

/-- The failure of an order for which no port is free. -/
def noneFree (f : Fleet) (o : Order) : Failure :=
  .noFreePort (settingsOf f o).listening.firstPort (settingsOf f o).listening.lastPort

/-- Enters what a search came to. -/
def entered (f : Fleet) (search : Machine × Except Failure Member) :
    Machine × Fleet × Except Failure Member :=
  match search.2 with
  | .ok member => (search.1, f.register member, .ok member)
  | .error e => (search.1, f, .error e)

theorem create_unasked (unasked : o.port = none) (m : Machine) :
    f.create m o = entered f (f.startOnFree m (settingsOf f o) (addressOf f o) o.relay) := by
  simp only [create, unasked]
  rfl

theorem create_unreadable (unasked : o.port = none) (accepted : (settingsOf f o).check = .ok ())
    {r : Refusal} (failed : Forward.Options.relay? o.relay = .error r) (m : Machine) :
    f.create m o = (m, f, .error (.relay r)) := by
  rw [create_unasked unasked, startOnFree, accepted, failed]
  rfl

theorem create_readable (unasked : o.port = none) (accepted : (settingsOf f o).check = .ok ())
    (readable : Readable o.relay) (m : Machine) :
    f.create m o = entered f (f.startOnFirst (settingsOf f o) (addressOf f o) o.relay (noneFree f o)
      (range (settingsOf f o).listening.firstPort (settingsOf f o).listening.lastPort) m) := by
  obtain ⟨r, readable⟩ := readable
  rw [create_unasked unasked, startOnFree, accepted, readable]
  rfl

/-- A search that is over at a port makes the order what the start there is. -/
theorem create_decided (unasked : o.port = none) (accepted : (settingsOf f o).check = .ok ())
    (decides : Decides f m o p m') :
    f.create m o = entered f (answered (addressOf f o) (startAt f o m' p)) := by
  obtain ⟨rest, parts⟩ := range_at decides.inRange.1 decides.inRange.2
  rw [create_readable unasked accepted decides.readable, parts, search_passes decides.passes,
    search_ends decides.ends]
  rfl

/-- An order is decided by the address of the other proxy, by the start on some port of the range,
or by there being none left. -/
theorem create_cases (unasked : o.port = none) (accepted : (settingsOf f o).check = .ok ())
    (m : Machine) :
    (∃ r, Forward.Options.relay? o.relay = .error r) ∨ (∃ p m', Decides f m o p m') ∨
      (∀ p, InRange (settingsOf f o) p → Taken f m (addressOf f o) p) ∧
        (f.create m o).2 = (f, .error (noneFree f o)) := by
  cases readable : Forward.Options.relay? o.relay with
  | error r => exact .inl ⟨r, rfl⟩
  | ok relay =>
    refine .inr ?_
    have readable : Readable o.relay := ⟨relay, readable⟩
    obtain ⟨m', passes⟩ | ⟨passed, p, rest, m', parts, passes, ends⟩ :=
      search_cases f (settingsOf f o) (addressOf f o) o.relay
        (range (settingsOf f o).listening.firstPort (settingsOf f o).listening.lastPort) m
    · refine .inr ⟨fun p inRange => taken_of_passes passes p (mem_range.mpr inRange), ?_⟩
      have whole := search_passes passes (noneFree f o) []
      rw [List.append_nil] at whole
      rw [create_readable unasked accepted readable, whole]
      rfl
    · obtain ⟨rfl, inRange⟩ := below_of_range parts
      exact .inl ⟨p, m', readable, inRange, passes, ends⟩

/-- An order that cannot be met fails for that, and the fleet stays what it is. -/
theorem create_fails (unasked : o.port = none) (accepted : (settingsOf f o).check = .ok ())
    {e : Failure} (fails : Fails f m o e) : (f.create m o).2 = (f, .error e) := by
  cases fails with
  | unreadable failed => rw [create_unreadable unasked accepted failed]
  | @start p m' e decides failed =>
    have whole : startAt f o m' p = (_, .error e) := Prod.ext rfl failed
    rw [create_decided unasked accepted decides, whole]
    rfl

/-- A search that is over with a proxy is over at the first free port. -/
theorem decides_first (decides : Decides f m o p m') {g : Gateway} {port : UInt16}
    (started : (startAt f o m' p).2 = .ok (g, port)) :
    FirstFree f m o p ∧ m.bind (addressOf f o) p = .listening port := by
  have listening : m'.bind (addressOf f o) p = .listening port := bind_of_started started
  rw [passes_binds decides.passes] at listening
  refine ⟨⟨decides.inRange, ?_, fun q inRange smaller => ?_⟩, listening⟩
  · rintro (there | inUse)
    · rw [decides.ends.absent] at there
      cases there
    · cases listening.symm.trans inUse
  · exact taken_of_passes decides.passes q (mem_below.mpr ⟨inRange.1, smaller⟩)

/-- A search knows nothing of the ports behind the one where it is over. -/
theorem decides_rebound (decides : Decides f m o p m') {bind : Net.Ip → UInt16 → Bound}
    (same : ∀ q, InRange (settingsOf f o) q → q ≤ p →
      bind (addressOf f o) q = m.bind (addressOf f o) q) :
    Decides f { m with bind } o p { m' with bind } ∧
      startAt f o { m' with bind } p =
        ({ (startAt f o m' p).1 with bind }, (startAt f o m' p).2) := by
  have kept := passes_binds decides.passes
  have own : bind (addressOf f o) p = m'.bind (addressOf f o) p :=
    kept ▸ same p decides.inRange UInt16.le_rfl
  have again : startAt f o { m' with bind } p = _ := start_rebound own
  refine ⟨⟨decides.readable, decides.inRange, passes_rebound decides.passes ?_, ?_⟩, again⟩
  · intro q member
    obtain ⟨low, smaller⟩ := mem_below.mp member
    have high := UInt16.le_of_lt smaller
    exact same q ⟨low, UInt16.le_trans high decides.inRange.2⟩ high
  · exact ⟨decides.ends.absent, fun text failed => decides.ends.decided text
      ((congrArg Prod.snd again).symm.trans failed)⟩

theorem firstFree_unique (first : FirstFree f m o p) (other : FirstFree f m o q) : p = q :=
  UInt16.le_antisymm
    (UInt16.not_lt.mp fun larger => other.free (first.least q other.inRange larger))
    (UInt16.not_lt.mp fun smaller => first.free (other.least p first.inRange smaller))

theorem given_of_created (unasked : o.port = none) (accepted : (settingsOf f o).check = .ok ())
    {member : Member} (made : (f.create m o).2.2 = .ok member) :
    member.address = addressOf f o ∧ (f.create m o).2.1 = f.register member ∧
      ∃ p, FirstFree f m o p ∧ m.bind (addressOf f o) p = .listening member.port := by
  obtain ⟨r, unreadable⟩ | ⟨p, m', decides⟩ | ⟨-, full⟩ := create_cases unasked accepted m
  · rw [create_unreadable unasked accepted unreadable] at made
    cases made
  · rw [create_decided unasked accepted decides] at made ⊢
    cases comes : startAt f o m' p with
    | mk after r =>
      rw [comes] at made
      cases r with
      | error e => cases made
      | ok r =>
        cases made
        exact ⟨rfl, rfl, p, decides_first decides (congrArg Prod.snd comes)⟩
  · rw [full] at made
    cases made

theorem why_failed (unasked : o.port = none) (accepted : (settingsOf f o).check = .ok ())
    {e : Failure} (failed : (f.create m o).2.2 = .error e) :
    (f.create m o).2 = (f, .error e) ∧ (Fails f m o e ∨ e = noneFree f o ∧
      ∀ p, InRange (settingsOf f o) p → Taken f m (addressOf f o) p) := by
  obtain ⟨r, unreadable⟩ | ⟨p, m', decides⟩ | ⟨taken, full⟩ := create_cases unasked accepted m
  · rw [create_unreadable unasked accepted unreadable] at failed ⊢
    cases failed
    exact ⟨rfl, .inl (.unreadable unreadable)⟩
  · rw [create_decided unasked accepted decides] at failed ⊢
    cases comes : startAt f o m' p with
    | mk after r =>
      rw [comes] at failed
      cases r with
      | ok r => cases failed
      | error e =>
        cases failed
        exact ⟨rfl, .inl (.start decides (congrArg Prod.snd comes))⟩
  · rw [full] at failed ⊢
    cases failed
    exact ⟨rfl, .inr ⟨rfl, taken⟩⟩

/-- That the system gives out no port zero, and no port but the one that it is asked for unless it
is asked for any. -/
def AsAsked (m : Machine) (address : Net.Ip) : Prop :=
  ∀ p q, m.bind address p = .listening q → q ≠ 0 ∧ (p ≠ 0 → q = p)

/-- How an order comes out that asks for no port. -/
structure Allocation (f : Fleet) (m : Machine) (o : Order) : Prop where
  /-- A proxy listens on what the system gives for the smallest port of the range that is not taken,
  and is registered. -/
  started : ∀ member, (f.create m o).2.2 = .ok member →
    member.address = addressOf f o ∧ (f.create m o).2.1 = f.register member ∧
      ∃ p, FirstFree f m o p ∧ m.bind (addressOf f o) p = .listening member.port
  /-- It listens on this port itself, unless the port is zero. -/
  smallest : AsAsked m (addressOf f o) → ∀ member, (f.create m o).2.2 = .ok member →
    (FirstFree f m o member.port ↔ ¬ FirstFree f m o 0)
  /-- The order finds no free port just where all ports of the range are taken, unless it fails for
  something else. -/
  exhausted : (f.create m o).2 = (f, .error (noneFree f o)) ↔
    (∀ p, InRange (settingsOf f o) p → Taken f m (addressOf f o) p) ∧ ∀ e, ¬ Fails f m o e
  /-- For something else it fails just where the first start fails that does not find its port in
  use, or the address of the other proxy cannot be read. -/
  failed : ∀ e, e ≠ noneFree f o → ((f.create m o).2 = (f, .error e) ↔ Fails f m o e)
  /-- A failed order leaves the fleet alone. -/
  unchanged : ∀ e, (f.create m o).2.2 = .error e → (f.create m o).2.1 = f
  /-- When the search is over at a port, whatever the system would say about the ports behind it is
  nothing to the order. -/
  untried : ∀ p m', Decides f m o p m' → ∀ bind, (∀ q, InRange (settingsOf f o) q → q ≤ p →
      bind (addressOf f o) q = m.bind (addressOf f o) q) →
    f.create { m with bind } o = ({ (startAt f o m' p).1 with bind }, (f.create m o).2)

/-- An order that asks for no port, of settings that are accepted, gets the first free port of their
range. -/
theorem first_free_port_is_given (f : Fleet) (m : Machine) (o : Order) (unasked : o.port = none)
    (accepted : (settingsOf f o).check = .ok ()) : Allocation f m o := by
  constructor
  case started => exact fun member made => given_of_created unasked accepted made
  case smallest =>
    intro asAsked member made
    obtain ⟨-, -, p, first, listening⟩ := given_of_created unasked accepted made
    obtain ⟨proper, same⟩ := asAsked p member.port listening
    constructor
    · intro own zero
      exact proper (firstFree_unique own zero)
    · intro other
      have given : member.port = p := same fun zero => other (zero ▸ first)
      rwa [given]
  case exhausted =>
    constructor
    · intro full
      obtain ⟨-, fails | ⟨-, taken⟩⟩ := why_failed unasked accepted (congrArg Prod.snd full)
      · cases fails
      · refine ⟨taken, fun e fails => ?_⟩
        cases full.symm.trans (create_fails unasked accepted fails)
        cases fails
    · rintro ⟨taken, whole⟩
      cases comes : (f.create m o).2.2 with
      | ok member =>
        obtain ⟨-, -, p, first, -⟩ := given_of_created unasked accepted comes
        exact absurd (taken p first.inRange) first.free
      | error e =>
        obtain ⟨same, fails | ⟨rfl, -⟩⟩ := why_failed unasked accepted comes
        · exact absurd fails (whole e)
        · exact same
  case failed =>
    intro e other
    refine ⟨fun broken => ?_, create_fails unasked accepted⟩
    obtain ⟨-, fails | ⟨same, -⟩⟩ := why_failed unasked accepted (congrArg Prod.snd broken)
    · exact fails
    · exact absurd same other
  case unchanged => exact fun e broken => congrArg Prod.fst (why_failed unasked accepted broken).1
  case untried =>
    intro p m' decides bind same
    obtain ⟨again, start⟩ := decides_rebound decides same
    rw [create_decided unasked accepted again, create_decided unasked accepted decides, start]
    cases startAt f o m' p with
    | mk after r => cases r <;> rfl

/-- Of the two last ports the first is in use. -/
theorem last_port_is_given :
    let f : Fleet := { defaults := {
      listening := { firstPort := 65534, lastPort := 65535 }
      interception := { enabled := false } } }
    let m : Machine := { toolkit := .numbered, bind := fun _ p =>
      if p = 65534 then .inUse else .listening (if p = 0 then 40000 else p) }
    f.defaults.check = .ok () ∧ FirstFree f m {} 65535 ∧
      (f.create m {}).2.2.toOption.map (·.port) = some 65535 := by
  intro f m
  have whole := first_free_port_is_given f m {} rfl rfl
  have given : (f.create m {}).2.2.toOption.map (·.port) = some 65535 := by decide +kernel
  have asAsked : AsAsked m (addressOf f {}) := by
    intro p q answer
    simp only [m] at answer
    repeat' split at answer
    all_goals cases answer
    all_goals simp_all
  refine ⟨rfl, ?_, given⟩
  cases made : (f.create m {}).2.2 with
  | error e => rw [made] at given; cases given
  | ok member =>
    rw [made] at given
    have last : member.port = 65535 := Option.some.inj given
    exact last ▸ (whole.smallest asAsked member made).mpr fun zero =>
      absurd zero.inRange (by decide)

/-- A range of port zero alone: the proxy listens on a port that is not of the range. -/
theorem range_from_zero_is_left :
    let f : Fleet := { defaults := {
      listening := { firstPort := 0, lastPort := 0 }, interception := { enabled := false } } }
    let m : Machine := {
      toolkit := .numbered, bind := fun _ p => .listening (if p = 0 then 40000 else p) }
    f.defaults.check = .ok () ∧ (f.create m {}).2.2.toOption.map (·.port) = some 40000 ∧
      ¬ FirstFree f m {} 40000 :=
  ⟨rfl, by decide +kernel, fun first => absurd first.inRange (by decide)⟩

end Wirelog.FreePorts
