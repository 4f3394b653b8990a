import Mathlib.Data.List.Nodup
import Mathlib.Data.Option.Basic
import Wirelog.Archive.Codec

/-! The shapes of the records in an archive document: which parts a record has, under which names
and in which order, and which of these parts are records again. A record is read off its parts
alone. So two forms of a record are read alike if their parts are, and this goes up to the document
as a whole. -/
namespace Wirelog.ArchiveShapes
open Archive

/-! ## Shapes -/

/-- The records of a document. -/
inductive Kind where
  | document
  | log
  | program
  | page
  | pageTimings
  | entry
  | request
  | response
  | cookie
  | pair
  | param
  | postData
  | content
  | cache
  | timings

/-- What stands in a part of a record: a value without parts of its own, a record, or an array of
records. -/
inductive Slot where
  | plain
  | one (kind : Kind)
  | many (kind : Kind)

namespace Kind

/-- The parts of a record with their names, in their order. -/
def parts : Kind → List (String × Slot)
  | document => [("log", .one log)]
  | log => [("version", .plain), ("creator", .one program), ("browser", .one program),
      ("pages", .many page), ("entries", .many entry), ("comment", .plain)]
  | program => [("name", .plain), ("version", .plain), ("comment", .plain)]
  | page => [("id", .plain), ("startedDateTime", .plain), ("title", .plain),
      ("pageTimings", .one pageTimings), ("comment", .plain)]
  | pageTimings => [("onContentLoad", .plain), ("onLoad", .plain), ("comment", .plain)]
  | entry => [("pageref", .plain), ("startedDateTime", .plain), ("time", .plain),
      ("request", .one request), ("response", .one response), ("cache", .one cache),
      ("timings", .one timings), ("serverIPAddress", .plain), ("connection", .plain),
      ("comment", .plain)]
  | request => [("method", .plain), ("url", .plain), ("httpVersion", .plain),
      ("cookies", .many cookie), ("headers", .many pair), ("queryString", .many pair),
      ("postData", .one postData), ("headersSize", .plain), ("bodySize", .plain),
      ("comment", .plain)]
  | response => [("status", .plain), ("statusText", .plain), ("httpVersion", .plain),
      ("cookies", .many cookie), ("headers", .many pair), ("content", .one content),
      ("redirectURL", .plain), ("headersSize", .plain), ("bodySize", .plain), ("comment", .plain),
      ("_error", .plain)]
  | cookie => [("name", .plain), ("value", .plain), ("path", .plain), ("domain", .plain),
      ("expires", .plain), ("httpOnly", .plain), ("secure", .plain), ("comment", .plain)]
  | pair => [("name", .plain), ("value", .plain), ("comment", .plain)]
  | param => [("name", .plain), ("value", .plain), ("fileName", .plain), ("contentType", .plain)]
  | postData => [("mimeType", .plain), ("params", .many param), ("text", .plain),
      ("comment", .plain)]
  | content => [("size", .plain), ("compression", .plain), ("mimeType", .plain), ("text", .plain),
      ("encoding", .plain), ("comment", .plain)]
  | cache => [("comment", .plain)]
  | timings => [("blocked", .plain), ("dns", .plain), ("connect", .plain), ("send", .plain),
      ("wait", .plain), ("receive", .plain), ("ssl", .plain), ("comment", .plain)]

/-- The names that a record defines. -/
def names (k : Kind) : List String :=
  k.parts.map Prod.fst

/-- What stands in the parts of a record. -/
def slots (k : Kind) : List Slot :=
  k.parts.map Prod.snd

/-- What a record of a kind is in the model. -/
def Value : Kind → Type
  | document => Log
  | log => Log
  | program => Program
  | page => Page
  | pageTimings => PageTimings
  | entry => Entry
  | request => RequestRecord
  | response => ResponseRecord
  | cookie => CookieRecord
  | pair => Pair
  | param => Param
  | postData => PostData
  | content => Content
  | cache => CacheRecord
  | timings => Timings

/-- How a record of a kind is read. -/
def read : (k : Kind) → Json → Option k.Value
  | document => Log.ofDocument?
  | log => Log.ofJson?
  | program => Program.ofJson?
  | page => Page.ofJson?
  | pageTimings => PageTimings.ofJson?
  | entry => Entry.ofJson?
  | request => RequestRecord.ofJson?
  | response => ResponseRecord.ofJson?
  | cookie => CookieRecord.ofJson?
  | pair => Pair.ofJson?
  | param => Param.ofJson?
  | postData => PostData.ofJson?
  | content => Content.ofJson?
  | cache => CacheRecord.ofJson?
  | timings => Timings.ofJson?

theorem names_distinct (k : Kind) : k.names.Nodup := by
  cases k <;> simp [names, parts]

end Kind

/-! ## Parts that are read alike -/

namespace Slot

/-- That two values are read alike in a part. -/
def Alike : Slot → Json → Json → Prop
  | plain, j, j' => j = j'
  | one k, j, j' => k.read j = k.read j'
  | many k, j, j' => readList k.read j = readList k.read j'

/-- That a reader reads alike what is alike in a part. -/
def Reads {α : Type} (slot : Slot) (read : Json → Option α) : Prop :=
  ∀ {j j' : Json}, slot.Alike j j' → read j = read j'

/-- A part that is absent or present in two forms of a record. Values that differ are no `null`,
which may stand for absence. -/
inductive Same (slot : Slot) : Option Json → Option Json → Prop where
  | refl (part : Option Json) : slot.Same part part
  | alike {j j' : Json} (proper : j ≠ .null) (proper' : j' ≠ .null) (alike : slot.Alike j j') :
      slot.Same (some j) (some j')

end Slot

section Readers
variable {slot : Slot} {α : Type} {read : Json → Option α} {p p' : Option Json}

theorem plain_same (same : Slot.plain.Same p p') : p = p' := by
  cases same with
  | refl => rfl
  | alike _ _ alike => exact congrArg some alike

variable (reads : slot.Reads read) (same : slot.Same p p')
include reads same

theorem required_same : required read p = required read p' := by
  cases same with
  | refl => rfl
  | alike _ _ alike => exact reads alike

theorem orElse_same (absent : α) : orElse absent read p = orElse absent read p' := by
  cases same with
  | refl => rfl
  | alike _ _ alike => exact reads alike

theorem optional_same : optional read p = optional read p' := by
  cases same with
  | refl => rfl
  | @alike j j' proper proper' alike =>
    have present {j : Json} (proper : j ≠ .null) : optional read (some j) = (read j).map some := by
      cases j with
      | null => exact absurd rfl proper
      | _ => rfl
    rw [present proper, present proper', reads alike]

end Readers

theorem one_reads (k : Kind) : (Slot.one k).Reads k.read := id

theorem many_reads (k : Kind) : (Slot.many k).Reads (readList k.read) := id

/-- That the parts of two forms of a record are read alike, one by one. -/
inductive Parts : List Slot → List (Option Json) → List (Option Json) → Prop where
  | nil : Parts [] [] []
  | cons {slot : Slot} {slots : List Slot} {p p' : Option Json} {ps ps' : List (Option Json)}
      (first : slot.Same p p') (others : Parts slots ps ps') :
      Parts (slot :: slots) (p :: ps) (p' :: ps')

/-- Parts without parts of their own are the same if they are read alike. -/
theorem parts_plain {slots : List Slot} {ps ps' : List (Option Json)} (parts : Parts slots ps ps')
    (plain : ∀ slot ∈ slots, slot = .plain) : ps = ps' := by
  induction parts with
  | nil => rfl
  | cons first others ih =>
    obtain ⟨rfl, others⟩ := List.forall_mem_cons.mp plain
    rw [plain_same first, ih others]

/-- That a record is put together from its parts, and alike from parts that are read alike. -/
def Assembled (k : Kind) : Prop :=
  ∃ assemble : List (Option Json) → Option k.Value,
    (∀ j, k.read j = (partsOf k.names j).bind assemble) ∧
      ∀ ps ps', Parts k.slots ps ps' → assemble ps = assemble ps'

theorem assembled_plain {k : Kind} (plain : ∀ slot ∈ k.slots, slot = .plain)
    {assemble : List (Option Json) → Option k.Value}
    (read : ∀ j, k.read j = (partsOf k.names j).bind assemble) : Assembled k :=
  ⟨assemble, read, fun _ _ parts => congrArg assemble (parts_plain parts plain)⟩

theorem assembled_document : Assembled .document :=
  ⟨_, fun _ => rfl, fun _ _ (.cons log .nil) => required_same (one_reads .log) log⟩

theorem assembled_log : Assembled .log := by
  refine ⟨_, fun _ => rfl, fun _ _ (.cons version (.cons creator (.cons browser (.cons pages
    (.cons entries (.cons comment .nil)))))) => ?_⟩
  have creator := orElse_same (one_reads .program) creator {}
  have browser := optional_same (one_reads .program) browser
  have pages := orElse_same (many_reads .page) pages []
  have entries := orElse_same (many_reads .entry) entries []
  simp only [Kind.read, Kind.Value] at creator browser pages entries
  simp only [plain_same version, creator, browser, pages, entries, plain_same comment]
  rfl

theorem assembled_page : Assembled .page := by
  refine ⟨_, fun _ => rfl, fun _ _ (.cons id (.cons started (.cons title (.cons timings
    (.cons comment .nil))))) => ?_⟩
  have timings := orElse_same (one_reads .pageTimings) timings {}
  simp only [Kind.read, Kind.Value] at timings
  simp only [plain_same id, plain_same started, plain_same title, timings, plain_same comment]
  rfl

theorem assembled_entry : Assembled .entry := by
  refine ⟨_, fun _ => rfl, fun _ _ (.cons pageref (.cons started (.cons time (.cons request
    (.cons response parts))))) => ?_⟩
  -- A pattern for all ten parts at once would be too deep.
  have .cons cache (.cons timings (.cons address (.cons connection (.cons comment .nil)))) := parts
  have request := required_same (one_reads .request) request
  have response := required_same (one_reads .response) response
  have cache := orElse_same (one_reads .cache) cache {}
  have timings := orElse_same (one_reads .timings) timings {}
  simp only [Kind.read, Kind.Value] at request response cache timings
  simp only [plain_same pageref, plain_same started, plain_same time, request, response, cache,
    timings, plain_same address, plain_same connection, plain_same comment]
  rfl

theorem assembled_request : Assembled .request := by
  refine ⟨_, fun _ => rfl, fun _ _ (.cons method (.cons url (.cons httpVersion (.cons cookies
    (.cons headers parts))))) => ?_⟩
  have .cons queryString (.cons postData (.cons headersSize (.cons bodySize
    (.cons comment .nil)))) := parts
  have cookies := orElse_same (many_reads .cookie) cookies []
  have headers := orElse_same (many_reads .pair) headers []
  have queryString := orElse_same (many_reads .pair) queryString []
  have postData := optional_same (one_reads .postData) postData
  simp only [Kind.read, Kind.Value] at cookies headers queryString postData
  simp only [plain_same method, plain_same url, plain_same httpVersion, cookies, headers,
    queryString, postData, plain_same headersSize, plain_same bodySize, plain_same comment]
  rfl

theorem assembled_response : Assembled .response := by
  refine ⟨_, fun _ => rfl, fun _ _ (.cons status (.cons statusText (.cons httpVersion
    (.cons cookies (.cons headers (.cons content parts)))))) => ?_⟩
  have .cons redirectUrl (.cons headersSize (.cons bodySize (.cons comment
    (.cons error .nil)))) := parts
  have cookies := orElse_same (many_reads .cookie) cookies []
  have headers := orElse_same (many_reads .pair) headers []
  have content := orElse_same (one_reads .content) content {}
  simp only [Kind.read, Kind.Value] at cookies headers content
  simp only [plain_same status, plain_same statusText, plain_same httpVersion, cookies, headers,
    content, plain_same redirectUrl, plain_same headersSize, plain_same bodySize,
    plain_same comment, plain_same error]
  rfl

theorem assembled_postData : Assembled .postData := by
  refine ⟨_, fun _ => rfl, fun _ _ (.cons mimeType (.cons params (.cons text
    (.cons comment .nil)))) => ?_⟩
  have params := orElse_same (many_reads .param) params []
  simp only [Kind.read, Kind.Value] at params
  simp only [plain_same mimeType, params, plain_same text, plain_same comment]
  rfl

/-- Every record is put together from its parts. -/
theorem assembled (k : Kind) : Assembled k := by
  cases k with
  | document => exact assembled_document
  | log => exact assembled_log
  | page => exact assembled_page
  | entry => exact assembled_entry
  | request => exact assembled_request
  | response => exact assembled_response
  | postData => exact assembled_postData
  | program | pageTimings | cookie | pair | param | content | cache | timings =>
    exact assembled_plain (by simp [Kind.slots, Kind.parts]) fun _ => rfl

/-- If the parts of two forms of a record are read alike, the record is read alike. -/
theorem read_same {k : Kind} {j j' : Json}
    (same : Option.Rel (Parts k.slots) (partsOf k.names j) (partsOf k.names j')) :
    k.read j = k.read j' := by
  obtain ⟨assemble, read, alike⟩ := assembled k
  rw [read, read]
  generalize partsOf k.names j = found at same
  generalize partsOf k.names j' = found' at same
  cases same with
  | none => rfl
  | some parts => exact alike _ _ parts

/-! ## The parts of an object -/

theorem found_cons {slot : Slot} {slots : List Slot} {first first' : Option (Option Json)}
    {others others' : Option (List (Option Json))} (same : Option.Rel slot.Same first first')
    (rest : Option.Rel (Parts slots) others others') :
    Option.Rel (Parts (slot :: slots)) (do return (← first) :: (← others))
      (do return (← first') :: (← others')) := by
  cases same with
  | none => exact .none
  | some same =>
    cases rest with
    | none => exact .none
    | some rest => exact .some (.cons same rest)

theorem members_same {named : List (String × Slot)} {ms ms' : List (Spelling × Json)}
    (each : ∀ part ∈ named, Option.Rel part.2.Same (memberOf part.1 ms) (memberOf part.1 ms')) :
    Option.Rel (Parts (named.map Prod.snd))
      ((named.map Prod.fst).mapM fun name => memberOf name ms)
      ((named.map Prod.fst).mapM fun name => memberOf name ms') := by
  induction named with
  | nil => exact .some .nil
  | cons part named ih =>
    obtain ⟨first, others⟩ := List.forall_mem_cons.mp each
    rw [List.map_cons, List.map_cons, List.mapM_cons, List.mapM_cons]
    exact found_cons first (ih others)

/-- An object is read alike if what stands under each name of the record is. -/
theorem object_same {k : Kind} {ms ms' : List (Spelling × Json)}
    (proper : ms.all (·.1.isSome) = ms'.all (·.1.isSome))
    (each : ∀ part ∈ k.parts, Option.Rel part.2.Same (memberOf part.1 ms) (memberOf part.1 ms')) :
    k.read (.obj ms) = k.read (.obj ms') := by
  refine read_same ?_
  rw [partsOf, partsOf, proper]
  split
  · exact members_same each
  · exact .none

theorem found_same (slot : Slot) (found : Option (Option Json)) :
    Option.Rel slot.Same found found := by
  cases found with
  | none => exact .none
  | some part => exact .some (.refl part)

theorem memberOf_perm (name : String) {ms ms' : List (Spelling × Json)} (perm : ms.Perm ms') :
    memberOf name ms = memberOf name ms' := by
  have named := perm.filter fun m => m.1 == some name
  unfold memberOf
  generalize ms.filter _ = found at named ⊢
  generalize ms'.filter _ = found' at named ⊢
  -- One member that has the name is the same one in any order, and of more it matters only that
  -- they are more.
  match found with
  | [] => rw [List.nil_perm.mp named]
  | [m] => rw [← List.singleton_perm.mp named]
  | _ :: _ :: _ =>
    have length := named.length_eq
    match found' with
    | [] => cases length
    | [_] => cases length
    | _ :: _ :: _ => rfl

theorem permuted_same (k : Kind) {ms ms' : List (Spelling × Json)} (perm : ms.Perm ms') :
    k.read (.obj ms) = k.read (.obj ms') := by
  refine object_same perm.all_eq fun part _ => ?_
  rw [memberOf_perm part.1 perm]
  exact found_same _ _

section Member
variable (before after : List (Spelling × Json)) (name : String)

/-- A member of another name is not looked at. -/
theorem memberOf_other {other : String} (differs : other ≠ name) (x : Json) :
    memberOf name (before ++ (some other, x) :: after) = memberOf name (before ++ after) := by
  have passed : ((some other : Spelling) == some name) = false := by simpa using differs
  simp only [memberOf, List.filter_append, List.filter_cons, passed, Bool.false_eq_true, ↓reduceIte]

/-- A member with a name that the record does not define makes no difference. -/
theorem added_same {k : Kind} (unknown : name ∉ k.names) (x : Json) :
    k.read (.obj (before ++ after)) = k.read (.obj (before ++ (some name, x) :: after)) := by
  refine object_same (by simp) fun part member => ?_
  have differs : name ≠ part.1 := by
    rintro rfl
    exact unknown (List.mem_map_of_mem member)
  rw [memberOf_other before after part.1 differs]
  exact found_same _ _

theorem memberOf_replaced {slot : Slot} {x x' : Json} (same : slot.Same (some x) (some x')) :
    Option.Rel slot.Same (memberOf name (before ++ (some name, x) :: after))
      (memberOf name (before ++ (some name, x') :: after)) := by
  simp only [memberOf, List.filter_append, List.filter_cons, beq_self_eq_true, ↓reduceIte]
  generalize before.filter _ = found
  generalize after.filter _ = found'
  match found, found' with
  | [], [] => exact .some same
  | [], _ :: _ => exact .none
  | [_], _ => exact .none
  | _ :: _ :: _, _ => exact .none

/-- What is read alike may take the place of what stands under a name of the record. -/
theorem replaced_same {k : Kind} {slot : Slot} (defined : (name, slot) ∈ k.parts) {x x' : Json}
    (same : slot.Same (some x) (some x')) :
    k.read (.obj (before ++ (some name, x) :: after)) =
      k.read (.obj (before ++ (some name, x') :: after)) := by
  refine object_same (by simp) fun part member => ?_
  by_cases named : part.1 = name
  · obtain rfl := List.inj_on_of_nodup_map k.names_distinct member defined named
    exact memberOf_replaced before after name same
  · have differs : name ≠ part.1 := Ne.symm named
    rw [memberOf_other before after part.1 differs, memberOf_other before after part.1 differs]
    exact found_same _ _

end Member

/-! ## The parts of an array -/

theorem parts_refl {slots : List Slot} {ps : List (Option Json)}
    (whole : ps.length = slots.length) : Parts slots ps ps := by
  induction slots generalizing ps with
  | nil =>
    rw [List.length_eq_zero_iff.mp whole]
    exact .nil
  | cons slot slots ih =>
    obtain ⟨p, ps, rfl⟩ := List.exists_cons_of_length_eq_add_one whole
    exact .cons (.refl p) (ih (Nat.succ_inj.mp whole))

theorem parts_at {slots : List Slot} {slot : Slot} {before after : List (Option Json)}
    {p p' : Option Json} (whole : (before ++ p :: after).length = slots.length)
    (place : slots[before.length]? = some slot) (same : slot.Same p p') :
    Parts slots (before ++ p :: after) (before ++ p' :: after) := by
  induction before generalizing slots with
  | nil =>
    obtain ⟨first, slots, rfl⟩ := List.exists_cons_of_length_eq_add_one whole.symm
    obtain rfl := Option.some.inj place
    exact .cons same (parts_refl (Nat.succ_inj.mp whole))
  | cons p before ih =>
    obtain ⟨first, slots, rfl⟩ := List.exists_cons_of_length_eq_add_one whole.symm
    exact .cons (.refl p) (ih (Nat.succ_inj.mp whole) place)

/-- What is read alike may take the place of what stands at a place of the record. -/
theorem placed_same {k : Kind} {slot : Slot} {before after : List Json}
    (place : k.slots[before.length]? = some slot) {x x' : Json}
    (same : slot.Same (some x) (some x')) :
    k.read (.arr (before ++ x :: after)) = k.read (.arr (before ++ x' :: after)) := by
  refine read_same ?_
  have length : (before ++ x' :: after).length = (before ++ x :: after).length := by simp
  have slots : k.slots.length = k.names.length := by simp [Kind.slots, Kind.names]
  rw [partsOf, partsOf, length]
  split
  · rename_i fits
    simp only [List.map_append, List.map_cons, List.append_assoc, List.cons_append]
    refine .some (parts_at ?_ (by rwa [List.length_map]) same)
    simp only [List.length_append, List.length_cons, List.length_map, List.length_replicate]
      at fits ⊢
    omega
  · exact .none

/-- What is read alike may take the place of an element. -/
theorem item_same {α : Type} {read : Json → Option α} {x x' : Json} (same : read x = read x')
    (before after : List Json) :
    readList read (.arr (before ++ x :: after)) = readList read (.arr (before ++ x' :: after)) := by
  simp only [readList, List.mapM_append, List.mapM_cons, same]

end Wirelog.ArchiveShapes
