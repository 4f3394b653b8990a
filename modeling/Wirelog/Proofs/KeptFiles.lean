import Wirelog.Authority.Files

/-! The files of an authority are the only copy of a key that clients trust. A call that finds both
writes nothing, whatever they hold and whatever fails, and the files of an authority that was opened
stay for good. But a call that finds one of them alone takes both for missing: it generates an
authority and writes over the file that is there. -/
namespace Wirelog.KeptFiles
open Authority

/-- A call finds the files that are there. -/
def Finds (access : Access) : Prop :=
  access.findCertificate = true ∧ access.findKey = true

/-- A call can read files. -/
def Reads (access : Access) : Prop :=
  access.readCertificate = true ∧ access.readKey = true

/-- A file was there and is not as it was. -/
def Lost (before after : Option Bytes) : Prop :=
  ∃ file, before = some file ∧ after ≠ some file

/-- No file that was there is changed, and files are written only where there was none. -/
structure Careful (f g : Files) : Prop where
  certificate : ¬Lost f.certificate g.certificate
  key : ¬Lost f.key g.key
  written : g ≠ f → f = {}

/-- A call comes to write the certificate. -/
def ReachesCertificate (access : Access) (f : Files) : Prop :=
  f.areFound access = false ∧ access.foldersFail = none

/-- A call comes to write the key. -/
def ReachesKey (access : Access) (f : Files) : Prop :=
  ReachesCertificate access f ∧ access.writeCertificate = .whole

/-- Writing leaves something else than the file that was there. -/
def Spoils (write : Writing) (content file : Bytes) : Prop :=
  write.leaves content (some file) ≠ some file

/-- The files after calls in order, each with what becomes of its operations and the number of the
authority that it may generate. -/
def filesAfter (t : Toolkit) (f : Files) (calls : List (Access × Nat)) : Files :=
  calls.foldl (fun f call => (acquire t call.1 call.2 f).1) f

variable {t : Toolkit} {access : Access} {fresh : Nat} {f : Files} {a : Authority}

/-! ## What a call does to the files -/

/-- A file after a call that wrote it or did not come to it. -/
structure Written (reached : Prop) (write : Writing) (content : Bytes)
    (before after : Option Bytes) : Prop where
  came : reached → after = write.leaves content before
  stayed : ¬reached → after = before

theorem Written.lost_iff {reached : Prop} {write : Writing} {content : Bytes}
    {before after : Option Bytes} (written : Written reached write content before after) :
    Lost before after ↔ reached ∧ ∃ file, before = some file ∧ Spoils write content file := by
  constructor
  · rintro ⟨file, rfl, changed⟩
    have came : reached := Classical.not_not.mp fun missed => changed (written.stayed missed)
    rw [written.came came] at changed
    exact ⟨came, file, rfl, changed⟩
  · rintro ⟨came, file, rfl, spoils⟩
    refine ⟨file, rfl, ?_⟩
    rw [written.came came]
    exact spoils

theorem acquire_found (t : Toolkit) (fresh : Nat) (found : f.areFound access = true) :
    acquire t access fresh f = (f, (load t access f).bind (tested t)) := by
  rw [acquire, found, if_pos rfl]

theorem acquire_missed (t : Toolkit) (fresh : Nat) (missed : f.areFound access = false) :
    acquire t access fresh f = ((generateInto t access fresh f).1,
      (generateInto t access fresh f).2.bind (tested t)) := by
  rw [acquire, missed, if_neg Bool.false_ne_true]

theorem failure?_eq_none {write : Writing} : write.failure? = none ↔ write = .whole := by
  cases write <;> simp [Writing.failure?]

theorem certificate_written (t : Toolkit) (access : Access) (fresh : Nat) (f : Files) :
    Written (ReachesCertificate access f) access.writeCertificate (.ofText (t.authority fresh).1)
      f.certificate (acquire t access fresh f).1.certificate where
  came reached := by
    rw [acquire_missed t fresh reached.1, generateInto, reached.2]
    cases access.writeCertificate.failure? <;> cases access.writeKey.failure? <;> rfl
  stayed missed := by
    cases found : f.areFound access with
    | true => rw [acquire_found t fresh found]
    | false =>
      rw [acquire_missed t fresh found, generateInto]
      cases folders : access.foldersFail with
      | some reason => rfl
      | none => exact absurd ⟨found, folders⟩ missed

theorem key_written (t : Toolkit) (access : Access) (fresh : Nat) (f : Files) :
    Written (ReachesKey access f) access.writeKey (.ofText (t.authority fresh).2)
      f.key (acquire t access fresh f).1.key where
  came := by
    rintro ⟨⟨missed, folders⟩, whole⟩
    rw [acquire_missed t fresh missed, generateInto, folders, whole]
    cases access.writeKey.failure? <;> rfl
  stayed missed := by
    cases found : f.areFound access with
    | true => rw [acquire_found t fresh found]
    | false =>
      rw [acquire_missed t fresh found, generateInto]
      cases folders : access.foldersFail with
      | some reason => rfl
      | none =>
        cases broken : access.writeCertificate.failure? with
        | some reason => rfl
        | none => exact absurd ⟨⟨found, folders⟩, failure?_eq_none.mp broken⟩ missed

/-! ## Files of an authority that was opened -/

/-- The files hold an authority that can sign. -/
structure Holds (t : Toolkit) (f : Files) (a : Authority) : Prop where
  certificate : f.certificate.bind Bytes.toText? = some a.certificate
  key : f.key.bind Bytes.toText? = some a.key
  parses : t.parses a.key = true
  whole : ofParts a.certificate a.key = .ok a
  tested : tested t a = .ok a

theorem readText_ok {allowed : Bool} {failure : Failure} {file : Option Bytes} {text : String}
    (read : readText allowed failure file = .ok text) : file.bind Bytes.toText? = some text := by
  unfold readText at read
  cases content : file.bind Bytes.toText? with
  | none => rw [content] at read; cases read
  | some s =>
    rw [content] at read
    cases allowed with
    | true => cases read; rfl
    | false => cases read

theorem ofParts_ok {certificate key : String} (made : ofParts certificate key = .ok a) :
    a = { certificate, key } := by
  unfold ofParts at made
  cases checked : checkCertificate certificate with
  | error e => rw [checked] at made; cases made
  | ok u => rw [checked] at made; cases made; rfl

theorem tested_ok {b : Authority} (passed : tested t b = .ok a) : b = a := by
  unfold tested at passed
  split at passed
  · cases passed; rfl
  · cases passed

theorem load_ok (loaded : load t access f = .ok a) (passed : tested t a = .ok a) : Holds t f a := by
  unfold load at loaded
  cases first : readText access.readCertificate .unreadableCertificate f.certificate with
  | error e => rw [first] at loaded; cases loaded
  | ok certificate =>
    rw [first] at loaded
    cases second : readText access.readKey .unreadableKey f.key with
    | error e =>
      simp only [second, bind, Except.bind] at loaded
      cases loaded
    | ok key =>
      simp only [second, bind, Except.bind] at loaded
      split at loaded
      · obtain rfl := ofParts_ok loaded
        exact ⟨readText_ok first, readText_ok second, ‹_›, loaded, passed⟩
      · cases loaded

theorem load_held (held : Holds t f a) (reads : Reads access) : load t access f = .ok a := by
  obtain ⟨readCertificate, readKey⟩ := reads
  simp only [load, readText, held.certificate, held.key, readCertificate, readKey, if_true]
  change (if t.parses a.key = true then ofParts a.certificate a.key else _) = _
  rw [if_pos held.parses, held.whole]

theorem held_found (held : Holds t f a) (finds : Finds access) : f.areFound access = true := by
  obtain ⟨content, there, -⟩ := Option.bind_eq_some_iff.mp held.certificate
  obtain ⟨content', there', -⟩ := Option.bind_eq_some_iff.mp held.key
  simp [Files.areFound, there, there', finds.1, finds.2]

theorem generateInto_ok (made : (generateInto t access fresh f).2 = .ok a)
    (passed : tested t a = .ok a) : Holds t (generateInto t access fresh f).1 a := by
  unfold generateInto at made ⊢
  cases folders : access.foldersFail with
  | some reason => rw [folders] at made; cases made
  | none =>
    cases first : access.writeCertificate.failure? with
    | some reason => simp [folders, first] at made
    | none =>
      cases second : access.writeKey.failure? with
      | some reason => simp [folders, first, second] at made
      | none =>
        simp only [folders, first, second] at made ⊢
        rw [failure?_eq_none.mp first, failure?_eq_none.mp second]
        obtain rfl := ofParts_ok made
        exact ⟨Bytes.toText_ofText _, Bytes.toText_ofText _, t.parses_authority fresh, made, passed⟩

/-- After a call that opened an authority, the files hold it. -/
theorem acquire_ok (opened : (acquire t access fresh f).2 = .ok a) :
    Holds t (acquire t access fresh f).1 a := by
  have taken {r : Except Failure Authority} (passed : r.bind (tested t) = .ok a) :
      r = .ok a ∧ tested t a = .ok a := by
    cases r with
    | error e => cases passed
    | ok b =>
      obtain rfl := tested_ok passed
      exact ⟨rfl, passed⟩
  cases found : f.areFound access with
  | true =>
    rw [acquire_found t fresh found] at opened ⊢
    obtain ⟨loaded, passed⟩ := taken opened
    exact load_ok loaded passed
  | false =>
    rw [acquire_missed t fresh found] at opened ⊢
    obtain ⟨made, passed⟩ := taken opened
    exact generateInto_ok made passed

/-- Where both files are found in every call, no row of calls changes them. -/
theorem filesAfter_found (t : Toolkit) (calls : List (Access × Nat))
    (found : ∀ call ∈ calls, f.areFound call.1 = true) : filesAfter t f calls = f := by
  induction calls with
  | nil => rfl
  | cons call rest ih =>
    obtain ⟨here, later⟩ := List.forall_mem_cons.mp found
    rw [filesAfter, List.foldl_cons, acquire_found t call.2 here]
    exact ih later

/-! ## What calls take care of -/

theorem careful_unchanged (f : Files) : Careful f f where
  certificate := fun ⟨_, there, changed⟩ => changed there
  key := fun ⟨_, there, changed⟩ => changed there
  written changed := absurd rfl changed

theorem careful_anew (g : Files) : Careful {} g where
  certificate := fun ⟨_, there, _⟩ => nomatch there
  key := fun ⟨_, there, _⟩ => nomatch there
  written _ := rfl

/-- A call that finds what is there is careful with two files and with none. -/
theorem careful_together (t : Toolkit) (fresh : Nat) (finds : Finds access)
    (together : f.certificate.isSome = f.key.isSome) : Careful f (acquire t access fresh f).1 := by
  obtain ⟨certificate, key⟩ := f
  cases certificate with
  | none =>
    have none : key = none := by simpa using together.symm
    subst none
    exact careful_anew _
  | some c =>
    have found : Files.areFound ⟨some c, key⟩ access = true := by
      simp [Files.areFound, finds.1, finds.2, ← together]
    rw [acquire_found t fresh found]
    exact careful_unchanged _

/-- Where every operation succeeds, both files are there after a call. -/
theorem full_after (t : Toolkit) (fresh : Nat) (f : Files) :
    let g := (acquire t {} fresh f).1
    g.certificate.isSome = true ∧ g.key.isSome = true := by
  intro g
  cases found : f.areFound {} with
  | true =>
    have same : g = f := congrArg Prod.fst (acquire_found t fresh found)
    simpa [same, Files.areFound] using found
  | false =>
    have certificate := (certificate_written t {} fresh f).came ⟨found, rfl⟩
    have key := (key_written t {} fresh f).came ⟨⟨found, rfl⟩, rfl⟩
    simp [g, certificate, key, Writing.leaves]

theorem together_of_careful (t : Toolkit) (fresh : Nat)
    (careful : Careful f (acquire t {} fresh f).1) : f.certificate.isSome = f.key.isSome := by
  obtain ⟨certificate, key⟩ := full_after t fresh f
  by_cases same : (acquire t {} fresh f).1 = f
  · rw [same] at certificate key
    rw [certificate, key]
  · rw [careful.written same]

/-- Files are lost where a call misses one of them. For two files and for none, every call that finds
what is there is careful, whatever else fails; for a lone file, not every call is. Whatever is found,
a file is lost exactly where a call that does not find both comes to write it and leaves something
else of it. The files of an authority that was opened are never changed again by calls that find
them, and it is opened from them again by every call that can read them. -/
theorem files_are_lost_where_one_is_missed (f : Files) :
    ((∀ t access fresh, Finds access → Careful f (acquire t access fresh f).1) ↔
      f.certificate.isSome = f.key.isSome) ∧
    ∀ t access fresh,
      let g := (acquire t access fresh f).1
      (Lost f.certificate g.certificate ↔ ReachesCertificate access f ∧
        ∃ file, f.certificate = some file ∧
          Spoils access.writeCertificate (.ofText (t.authority fresh).1) file) ∧
      (Lost f.key g.key ↔ ReachesKey access f ∧
        ∃ file, f.key = some file ∧
          Spoils access.writeKey (.ofText (t.authority fresh).2) file) ∧
      ∀ a, (acquire t access fresh f).2 = .ok a →
        (∀ calls : List (Access × Nat), (∀ call ∈ calls, Finds call.1) → filesAfter t g calls = g) ∧
        ∀ later n, Finds later → Reads later → acquire t later n g = (g, .ok a) := by
  constructor
  case left =>
    constructor
    · intro careful
      let t : Toolkit := {
        authority := fun _ => ("", ""), parses := fun _ => true, signs := fun _ => true
        parses_authority := fun _ => rfl }
      exact together_of_careful t 0 (careful t {} 0 ⟨rfl, rfl⟩)
    · intro together t access fresh finds
      exact careful_together t fresh finds together
  case right =>
    intro t access fresh g
    refine ⟨(certificate_written t access fresh f).lost_iff, (key_written t access fresh f).lost_iff,
      fun a opened => ?_⟩
    have held : Holds t g a := acquire_ok opened
    constructor
    · intro calls finds
      exact filesAfter_found t calls fun call member => held_found held (finds call member)
    · intro later n finds reads
      rw [acquire_found t n (held_found held finds), load_held held reads]
      exact congrArg _ held.tested

/-- A file with a key that is none is kept, and so is a generated authority through a call that can
neither read nor write. -/
theorem files_kept_through_failures :
    let certificate := "-----BEGIN CERTIFICATE-----\nAA==\n-----END CERTIFICATE-----\n"
    let t : Toolkit := {
      authority := fun _ => (certificate, "key"), parses := (· == "key"), signs := (· == "key")
      parses_authority := fun _ => rfl }
    let damaged : Files := { certificate := some (.ofText "old"), key := some (.ofText "none") }
    let made := acquire t {} 0 {}
    let failing : Access := { readCertificate := false, writeCertificate := .broken 1 "no space" }
    Careful damaged (acquire t failing 1 damaged).1 ∧
      ∃ a, made.2 = .ok a ∧ filesAfter t made.1 [(failing, 1)] = made.1 ∧
        acquire t {} 2 made.1 = (made.1, .ok a) := by
  have whole : checkCertificate
      "-----BEGIN CERTIFICATE-----\nAA==\n-----END CERTIFICATE-----\n" = .ok () := by rfl
  intro certificate t damaged made failing
  have careful : Careful damaged (acquire t failing 1 damaged).1 :=
    (files_are_lost_where_one_is_missed damaged).1.mpr rfl t failing 1 ⟨rfl, rfl⟩
  have opened : made.2 = .ok { certificate, key := "key" } := by
    change (ofParts certificate "key").bind (tested t) = _
    simp only [ofParts, certificate, whole]
    rfl
  have kept := ((files_are_lost_where_one_is_missed {}).2 t {} 0).2.2 _ opened
  exact ⟨careful, _, opened, kept.1 _ (List.forall_mem_singleton.mpr ⟨rfl, rfl⟩),
    kept.2 {} 2 ⟨rfl, rfl⟩ ⟨rfl, rfl⟩⟩

/-- A lone certificate and a lone key are written over where nothing fails, and so is a certificate
that is there with its key but is not found. -/
theorem lone_files_are_written_over :
    let t : Toolkit := {
      authority := fun _ => ("new", "new"), parses := fun _ => true, signs := fun _ => true
      parses_authority := fun _ => rfl }
    let old := Bytes.ofText "old"
    let lost (access : Access) (f : Files) : Prop :=
      Lost f.certificate (acquire t access 0 f).1.certificate ∨ Lost f.key (acquire t access 0 f).1.key
    lost {} { certificate := some old } ∧ lost {} { key := some old } ∧
      lost { findKey := false } { certificate := some old, key := some old } := by
  intro t old lost
  have apart : Bytes.ofText "new" ≠ old := by decide
  have other {file : Option Bytes} (written : file = some (Bytes.ofText "new")) : file ≠ some old :=
    fun same => apart (Option.some.inj (written.symm.trans same))
  exact ⟨.inl ⟨old, rfl, other rfl⟩, .inr ⟨old, rfl, other rfl⟩, .inl ⟨old, rfl, other rfl⟩⟩

end Wirelog.KeptFiles
