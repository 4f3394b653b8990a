import Wirelog.Archive.Codec
import Wirelog.Proofs.InstantText
import Wirelog.Proofs.JsonText

/-! Archive records read back from what is written of them. The parts of a record have names of
their own, so each is found under its name whichever of the others are left out. -/
namespace Wirelog.ArchiveRecords
open Archive Json JsonText InstantText

/-! ## Parts -/

/-- A part of a record with a name, if it is there; it has a text. -/
structure Part where
  name : String
  value : Option Json
  worded : ∀ j, value = some j → Worded j

/-- The members of a record with some parts. -/
def laid (parts : List Part) : List (Spelling × Json) :=
  parts.flatMap fun part => whenSome part.name id part.value

section

variable {name : String} (parts : List Part)

@[simp] theorem laid_nil : laid [] = [] :=
  rfl

theorem laid_cons (part : Part) :
    laid (part :: parts) = whenSome part.name id part.value ++ laid parts :=
  rfl

@[simp] theorem laid_some {j : Json} (worded : ∀ i, some j = some i → Worded i) :
    laid (⟨name, some j, worded⟩ :: parts) = member name j :: laid parts :=
  rfl

@[simp] theorem laid_map {α : Type} {write : α → Json} {a : Option α}
    (worded : ∀ j, a.map write = some j → Worded j) :
    laid (⟨name, a.map write, worded⟩ :: parts) = whenSome name write a ++ laid parts := by
  cases a <;> rfl

end

/-- Members belong to parts. -/
theorem part_of_laid {parts : List Part} {m : Spelling × Json} (among : m ∈ laid parts) :
    ∃ part ∈ parts, m.1 = some part.name ∧ part.value = some m.2 := by
  obtain ⟨part, member, written⟩ := List.mem_flatMap.mp among
  refine ⟨part, member, ?_⟩
  cases value : part.value with
  | none =>
    rw [value] at written
    cases written
  | some j =>
    rw [value] at written
    rw [List.mem_singleton.mp written]
    exact ⟨rfl, rfl⟩

theorem worded_laid (parts : List Part) : Worded (.obj (laid parts)) := by
  refine .obj fun m among => ?_
  obtain ⟨part, _, _, value⟩ := part_of_laid among
  exact part.worded m.2 value

/-- No member has a name that no part has. -/
theorem filter_laid_absent {parts : List Part} {name : String}
    (absent : name ∉ parts.map Part.name) :
    (laid parts).filter (fun m => m.1 == some name) = [] := by
  refine List.filter_eq_nil_iff.mpr fun m among same => absent ?_
  obtain ⟨part, member, named, _⟩ := part_of_laid among
  rw [named, beq_iff_eq, Option.some_inj] at same
  exact List.mem_map.mpr ⟨part, member, same⟩

/-- A part is found under its name. -/
theorem memberOf_laid {parts : List Part} (distinct : (parts.map Part.name).Nodup) {part : Part}
    (among : part ∈ parts) : memberOf part.name (laid parts) = some part.value := by
  induction parts with
  | nil => cases among
  | cons first rest ih =>
    rw [List.map_cons, List.nodup_cons] at distinct
    obtain ⟨own, distinct⟩ := distinct
    rcases List.mem_cons.mp among with rfl | later
    · have others := filter_laid_absent own
      cases value : part.value with
      | none => simp only [memberOf, laid_cons, value, whenSome, List.nil_append, others]
      | some j => simp [memberOf, laid_cons, value, whenSome, member, others]
    · have other : first.name ≠ part.name := by
        intro same
        exact own (List.mem_map.mpr ⟨part, later, same.symm⟩)
      rw [← ih distinct later]
      cases value : first.value with
      | none => simp only [laid_cons, value, whenSome, List.nil_append]
      | some j => simp [memberOf, laid_cons, value, whenSome, member, other]

/-- Steps that all succeed give all their results. -/
theorem mapM_some {α β : Type} {f : α → Option β} {g : α → β} {l : List α}
    (each : ∀ a ∈ l, f a = some (g a)) : l.mapM f = some (l.map g) := by
  induction l with
  | nil => rfl
  | cons a l ih =>
    have first := each a List.mem_cons_self
    have others := ih fun b member => each b (List.mem_cons_of_mem _ member)
    rw [List.mapM_cons, first, others]
    rfl

/-- The parts of a record are found under their names. -/
theorem partsOf_laid {parts : List Part} (distinct : (parts.map Part.name).Nodup) :
    partsOf (parts.map Part.name) (.obj (laid parts)) = some (parts.map Part.value) := by
  have proper : (laid parts).all (fun m => m.1.isSome) = true := by
    refine List.all_eq_true.mpr fun m among => ?_
    obtain ⟨part, _, named, _⟩ := part_of_laid among
    rw [named]
    rfl
  rw [partsOf, if_pos proper, List.mapM_map]
  exact mapM_some fun _ among => memberOf_laid distinct among

/-! ## Values -/

/-- That a value is read back from what is written of it. That has a text, and it is not the `null`
that stands for no value. -/
structure Restored {α : Type} (write : α → Json) (read : Json → Option α) (a : α) : Prop where
  worded : Worded (write a)
  proper : write a ≠ .null
  same : read (write a) = some a

theorem text_restored (s : String) : Restored .text readText s :=
  ⟨.str _, nofun, rfl⟩

theorem bool_restored (b : Bool) : Restored .bool readBool b :=
  ⟨.bool b, nofun, rfl⟩

theorem int_restored (i : Int64) : Restored writeInt readInt i := by
  refine ⟨.int _, nofun, ?_⟩
  rw [writeInt, readInt, if_pos ⟨Int64.minValue_le_toInt i, Int64.toInt_le i⟩, Int64.ofInt_toInt]

theorem status_restored (n : UInt16) : Restored (fun n => .nat n.toNat) readStatus n := by
  refine ⟨.int _, nofun, ?_⟩
  have fits : (0 : Int) ≤ n.toNat ∧ (n.toNat : Int).toNat < UInt16.size :=
    ⟨Int.natCast_nonneg _, n.toNat_lt⟩
  rw [nat, readStatus, if_pos fits, Int.toNat_natCast, UInt16.ofNat_toNat]

theorem instant_restored {t : Time.Instant} (dated : Dated t) :
    Restored (fun t => .text t.text) readInstant t :=
  ⟨.str _, nofun, parse_text dated⟩

section

variable {α : Type} {write : α → Json} {read : Json → Option α}

theorem list_restored (l : List α) (each : ∀ a ∈ l, Restored write read a) :
    Restored (writeList write) (readList read) l := by
  refine ⟨.arr fun j among => ?_, nofun, ?_⟩
  · obtain ⟨a, member, rfl⟩ := List.mem_map.mp among
    exact (each a member).worded
  · rw [writeList, readList, List.mapM_map]
    exact (mapM_some fun a member => (each a member).same).trans (by rw [List.map_id'])

/-- That what stands for a value as a part of a record is taken for it. -/
structure Taken (take : Option Json → Option α) (value : Option Json) (a : α) : Prop where
  worded : ∀ j, value = some j → Worded j
  same : take value = some a

theorem present_taken {a : α} (restored : Restored write read a) :
    Taken (required read) (some (write a)) a := by
  refine ⟨fun j same => ?_, restored.same⟩
  cases same
  exact restored.worded

/-- What the absence of a part stands for does not matter when it is there. -/
theorem orElse_present (absent : α) (j : Json) :
    orElse absent read (some j) = required read (some j) :=
  rfl

theorem optional_taken (each : ∀ a, Restored write read a) (o : Option α) :
    Taken (Archive.optional read) (o.map write) o := by
  cases o with
  | none => exact ⟨nofun, rfl⟩
  | some a =>
    obtain ⟨worded, proper, same⟩ := each a
    refine ⟨fun j same => ?_, ?_⟩
    · cases same
      exact worded
    · rw [Option.map_some, Archive.optional, same]
      · rfl
      · exact proper

/-- A record is read back when its parts have names of their own and make it up again. -/
theorem record_restored {a : α} {assemble : List (Option Json) → Option α} (parts : List Part)
    (distinct : (parts.map Part.name).Nodup) (written : write a = .obj (laid parts))
    (reads : read = fun j => partsOf (parts.map Part.name) j >>= assemble)
    (same : assemble (parts.map Part.value) = some a) : Restored write read a := by
  have found := partsOf_laid distinct
  refine ⟨?_, ?_, ?_⟩
  · rw [written]
    exact worded_laid parts
  · rw [written]
    exact nofun
  · rw [reads, written]
    simp only [found, Option.bind_eq_bind, Option.bind_some, same]

end

/-! ## Records -/

theorem program_restored (p : Program) : Restored Program.toJson Program.ofJson? p := by
  have name := present_taken (text_restored p.name)
  have version := present_taken (text_restored p.version)
  have comment := optional_taken text_restored p.comment
  refine record_restored [⟨"name", _, name.worded⟩, ⟨"version", _, version.worded⟩,
    ⟨"comment", _, comment.worded⟩] (by simp) (by simp [Program.toJson]) rfl ?_
  simp only [List.map_cons, List.map_nil, name.same, version.same, comment.same]
  rfl

theorem pageTimings_restored (t : PageTimings) :
    Restored PageTimings.toJson PageTimings.ofJson? t := by
  have onContentLoad := optional_taken int_restored t.onContentLoad
  have onLoad := optional_taken int_restored t.onLoad
  have comment := optional_taken text_restored t.comment
  refine record_restored [⟨"onContentLoad", _, onContentLoad.worded⟩, ⟨"onLoad", _, onLoad.worded⟩,
    ⟨"comment", _, comment.worded⟩] (by simp) (by simp [PageTimings.toJson]) rfl ?_
  simp only [List.map_cons, List.map_nil, onContentLoad.same, onLoad.same, comment.same]
  rfl

theorem page_restored {p : Page} (dated : Dated p.started) :
    Restored Page.toJson Page.ofJson? p := by
  have id := present_taken (text_restored p.id)
  have started := present_taken (instant_restored dated)
  have title := present_taken (text_restored p.title)
  have timings := present_taken (pageTimings_restored p.timings)
  have comment := optional_taken text_restored p.comment
  refine record_restored [⟨"id", _, id.worded⟩, ⟨"startedDateTime", _, started.worded⟩,
    ⟨"title", _, title.worded⟩, ⟨"pageTimings", _, timings.worded⟩, ⟨"comment", _, comment.worded⟩]
    (by simp) (by simp [Page.toJson]) rfl ?_
  simp only [List.map_cons, List.map_nil, orElse_present, id.same, started.same, title.same,
    timings.same, comment.same]
  rfl

theorem cookie_restored (c : CookieRecord) :
    Restored CookieRecord.toJson CookieRecord.ofJson? c := by
  have name := present_taken (text_restored c.name)
  have value := present_taken (text_restored c.value)
  have path := optional_taken text_restored c.path
  have domain := optional_taken text_restored c.domain
  have expires := optional_taken text_restored c.expires
  have httpOnly := optional_taken bool_restored c.httpOnly
  have secure := optional_taken bool_restored c.secure
  have comment := optional_taken text_restored c.comment
  refine record_restored [⟨"name", _, name.worded⟩, ⟨"value", _, value.worded⟩,
    ⟨"path", _, path.worded⟩, ⟨"domain", _, domain.worded⟩, ⟨"expires", _, expires.worded⟩,
    ⟨"httpOnly", _, httpOnly.worded⟩, ⟨"secure", _, secure.worded⟩, ⟨"comment", _, comment.worded⟩]
    (by simp) (by simp [CookieRecord.toJson]) rfl ?_
  simp only [List.map_cons, List.map_nil, name.same, value.same, path.same, domain.same,
    expires.same, httpOnly.same, secure.same, comment.same]
  rfl

theorem pair_restored (p : Pair) : Restored Pair.toJson Pair.ofJson? p := by
  have name := present_taken (text_restored p.name)
  have value := present_taken (text_restored p.value)
  have comment := optional_taken text_restored p.comment
  refine record_restored [⟨"name", _, name.worded⟩, ⟨"value", _, value.worded⟩,
    ⟨"comment", _, comment.worded⟩] (by simp) (by simp [Pair.toJson]) rfl ?_
  simp only [List.map_cons, List.map_nil, name.same, value.same, comment.same]
  rfl

theorem param_restored (p : Param) : Restored Param.toJson Param.ofJson? p := by
  have name := present_taken (text_restored p.name)
  have value := optional_taken text_restored p.value
  have fileName := optional_taken text_restored p.fileName
  have contentType := optional_taken text_restored p.contentType
  refine record_restored [⟨"name", _, name.worded⟩, ⟨"value", _, value.worded⟩,
    ⟨"fileName", _, fileName.worded⟩, ⟨"contentType", _, contentType.worded⟩]
    (by simp) (by simp [Param.toJson]) rfl ?_
  simp only [List.map_cons, List.map_nil, name.same, value.same, fileName.same, contentType.same]
  rfl

theorem postData_restored (p : PostData) : Restored PostData.toJson PostData.ofJson? p := by
  have mimeType := present_taken (text_restored p.mimeType)
  have params := present_taken (list_restored p.params fun a _ => param_restored a)
  have text := present_taken (text_restored p.text)
  have comment := optional_taken text_restored p.comment
  refine record_restored [⟨"mimeType", _, mimeType.worded⟩, ⟨"params", _, params.worded⟩,
    ⟨"text", _, text.worded⟩, ⟨"comment", _, comment.worded⟩]
    (by simp) (by simp [PostData.toJson]) rfl ?_
  simp only [List.map_cons, List.map_nil, orElse_present, mimeType.same, params.same, text.same,
    comment.same]
  rfl

theorem request_restored (r : RequestRecord) :
    Restored RequestRecord.toJson RequestRecord.ofJson? r := by
  have method := present_taken (text_restored r.method)
  have url := present_taken (text_restored r.url)
  have httpVersion := present_taken (text_restored r.httpVersion)
  have cookies := present_taken (list_restored r.cookies fun a _ => cookie_restored a)
  have headers := present_taken (list_restored r.headers fun a _ => pair_restored a)
  have queryString := present_taken (list_restored r.queryString fun a _ => pair_restored a)
  have postData := optional_taken postData_restored r.postData
  have headersSize := present_taken (int_restored r.headersSize)
  have bodySize := present_taken (int_restored r.bodySize)
  have comment := optional_taken text_restored r.comment
  refine record_restored [⟨"method", _, method.worded⟩, ⟨"url", _, url.worded⟩,
    ⟨"httpVersion", _, httpVersion.worded⟩, ⟨"cookies", _, cookies.worded⟩,
    ⟨"headers", _, headers.worded⟩, ⟨"queryString", _, queryString.worded⟩,
    ⟨"postData", _, postData.worded⟩, ⟨"headersSize", _, headersSize.worded⟩,
    ⟨"bodySize", _, bodySize.worded⟩, ⟨"comment", _, comment.worded⟩]
    (by simp) (by simp [RequestRecord.toJson]) rfl ?_
  simp only [List.map_cons, List.map_nil, orElse_present, method.same, url.same, httpVersion.same,
    cookies.same, headers.same, queryString.same, postData.same, headersSize.same, bodySize.same,
    comment.same]
  rfl

theorem content_restored (c : Content) : Restored Content.toJson Content.ofJson? c := by
  have size := present_taken (int_restored c.size)
  have compression := optional_taken int_restored c.compression
  have mimeType := present_taken (text_restored c.mimeType)
  have text := optional_taken text_restored c.text
  have encoding := optional_taken text_restored c.encoding
  have comment := optional_taken text_restored c.comment
  refine record_restored [⟨"size", _, size.worded⟩, ⟨"compression", _, compression.worded⟩,
    ⟨"mimeType", _, mimeType.worded⟩, ⟨"text", _, text.worded⟩, ⟨"encoding", _, encoding.worded⟩,
    ⟨"comment", _, comment.worded⟩] (by simp) (by simp [Content.toJson]) rfl ?_
  simp only [List.map_cons, List.map_nil, orElse_present, size.same, compression.same,
    mimeType.same, text.same, encoding.same, comment.same]
  rfl

theorem response_restored (r : ResponseRecord) :
    Restored ResponseRecord.toJson ResponseRecord.ofJson? r := by
  have status := present_taken (status_restored r.status)
  have statusText := present_taken (text_restored r.statusText)
  have httpVersion := present_taken (text_restored r.httpVersion)
  have cookies := present_taken (list_restored r.cookies fun a _ => cookie_restored a)
  have headers := present_taken (list_restored r.headers fun a _ => pair_restored a)
  have content := present_taken (content_restored r.content)
  have redirectUrl := present_taken (text_restored r.redirectUrl)
  have headersSize := present_taken (int_restored r.headersSize)
  have bodySize := present_taken (int_restored r.bodySize)
  have comment := optional_taken text_restored r.comment
  have error := optional_taken text_restored r.error
  refine record_restored [⟨"status", _, status.worded⟩, ⟨"statusText", _, statusText.worded⟩,
    ⟨"httpVersion", _, httpVersion.worded⟩, ⟨"cookies", _, cookies.worded⟩,
    ⟨"headers", _, headers.worded⟩, ⟨"content", _, content.worded⟩,
    ⟨"redirectURL", _, redirectUrl.worded⟩, ⟨"headersSize", _, headersSize.worded⟩,
    ⟨"bodySize", _, bodySize.worded⟩, ⟨"comment", _, comment.worded⟩, ⟨"_error", _, error.worded⟩]
    (by simp) (by simp [ResponseRecord.toJson]) rfl ?_
  simp only [List.map_cons, List.map_nil, orElse_present, status.same, statusText.same,
    httpVersion.same, cookies.same, headers.same, content.same, redirectUrl.same, headersSize.same,
    bodySize.same, comment.same, error.same]
  rfl

theorem cache_restored (c : CacheRecord) : Restored CacheRecord.toJson CacheRecord.ofJson? c := by
  have comment := optional_taken text_restored c.comment
  refine record_restored [⟨"comment", _, comment.worded⟩]
    (by simp) (by simp [CacheRecord.toJson]) rfl ?_
  simp only [List.map_cons, List.map_nil, comment.same]
  rfl

theorem timings_restored (t : Timings) : Restored Timings.toJson Timings.ofJson? t := by
  have blocked := present_taken (int_restored t.blocked)
  have dns := present_taken (int_restored t.dns)
  have connect := present_taken (int_restored t.connect)
  have send := present_taken (int_restored t.send)
  have wait := present_taken (int_restored t.wait)
  have receive := present_taken (int_restored t.receive)
  have ssl := present_taken (int_restored t.ssl)
  have comment := optional_taken text_restored t.comment
  refine record_restored [⟨"blocked", _, blocked.worded⟩, ⟨"dns", _, dns.worded⟩,
    ⟨"connect", _, connect.worded⟩, ⟨"send", _, send.worded⟩, ⟨"wait", _, wait.worded⟩,
    ⟨"receive", _, receive.worded⟩, ⟨"ssl", _, ssl.worded⟩, ⟨"comment", _, comment.worded⟩]
    (by simp) (by simp [Timings.toJson]) rfl ?_
  simp only [List.map_cons, List.map_nil, orElse_present, blocked.same, dns.same, connect.same,
    send.same, wait.same, receive.same, ssl.same, comment.same]
  rfl

theorem entry_restored {e : Entry} (dated : Dated e.started) :
    Restored Entry.toJson Entry.ofJson? e := by
  have pageref := optional_taken text_restored e.pageref
  have started := present_taken (instant_restored dated)
  have time := present_taken (int_restored e.time)
  have request := present_taken (request_restored e.request)
  have response := present_taken (response_restored e.response)
  have cache := present_taken (cache_restored e.cache)
  have timings := present_taken (timings_restored e.timings)
  have serverAddress := optional_taken text_restored e.serverAddress
  have connection := optional_taken text_restored e.connection
  have comment := optional_taken text_restored e.comment
  refine record_restored [⟨"pageref", _, pageref.worded⟩, ⟨"startedDateTime", _, started.worded⟩,
    ⟨"time", _, time.worded⟩, ⟨"request", _, request.worded⟩, ⟨"response", _, response.worded⟩,
    ⟨"cache", _, cache.worded⟩, ⟨"timings", _, timings.worded⟩,
    ⟨"serverIPAddress", _, serverAddress.worded⟩, ⟨"connection", _, connection.worded⟩,
    ⟨"comment", _, comment.worded⟩] (by simp) (by simp [Entry.toJson]) rfl ?_
  simp only [List.map_cons, List.map_nil, orElse_present, pageref.same, started.same, time.same,
    request.same, response.same, cache.same, timings.same, serverAddress.same, connection.same,
    comment.same]
  rfl

end Wirelog.ArchiveRecords
