import Wirelog.Handling.Standard
import Wirelog.Proofs.FullUrls

/-! URLs pasted together from a host and a target. The text is read like any other, so what comes
out as the authority is what stands before the first character that ends one, wherever this
character was written. A host without such a character, in front of a path, comes out whole, and the
path and the query come out as they went in. A host with one loses its end to the path, the query or
a fragment, and a target that is no path goes to the host. -/
namespace Wirelog.PastedUrls
open Http Http.Uri DigitRows AuthorityLaws FullUrls

/-- The host that is chosen for a request, less a port that goes without saying. -/
def chosenHost (h : Handling) (r : Request) : String :=
  Handling.dropDefaultPort h.secure (h.authorityFor r)

/-- What the chosen host and the target of a request are pasted together to. -/
def pasted (h : Handling) (r : Request) : List Char :=
  (chosenHost h r).toList ++ r.uri.pathQueryText.toList

/-- The path and the query of a target; a target without any stands for the root. -/
def wanted (u : Uri) : PathQuery :=
  u.pathQuery?.getD ⟨"/", none⟩

/-- The target that stands for a server as a whole. -/
def asterisk : Uri :=
  { target := ⟨"*", none⟩ }

/-- That no character of a text ends an authority. -/
def Unbroken (s : String) : Prop :=
  ∀ c ∈ s.toList, (!endsAuthority c) = true

variable {h : Handling} {r : Request} {u : Uri} {text : String}

/-! ## Targets -/

/-- A target without a scheme is a path, an asterisk or an authority. -/
theorem target_forms (read : parse? text = some u) (plain : u.scheme = none) :
    OriginForm u ∨ u = asterisk ∨ u.authority.isEmpty = false ∧ u.target = {} := by
  cases (readsAs_of_parse read).1 with
  | asterisk => exact .inr (.inl rfl)
  | path rooted => exact .inl (originForm_of_parse rooted read).1
  | bare _ _ _ filled =>
    refine .inr (.inr ⟨Bool.eq_false_iff.mpr fun empty => ?_, rfl⟩)
    have gone : text = "" := String.isEmpty_iff.mp empty
    rw [gone] at filled
    cases filled
  | full => cases plain

/-- Unless it is an asterisk, a target is written as a path from the root that reads as what it
stands for. -/
theorem wanted_of_target (read : parse? text = some u) (plain : u.scheme = none)
    (path : u ≠ asterisk) :
    u.pathQueryText.toList.head? = some '/' ∧
      readPathQuery u.pathQueryText.toList = some (wanted u) := by
  rcases target_forms read plain with origin | star | ⟨named, -⟩
  · have stands : wanted u = u.target := by simp [wanted, pathQuery?, origin.authority]
    rw [pathQueryText_originForm origin, stands]
    exact ⟨(path_of_rooted origin.rooted).2.2, read_raw origin.legible⟩
  · exact absurd star path
  · have bare : u.pathQuery? = none := by simp [pathQuery?, plain, named]
    rw [pathQueryText, wanted, bare]
    exact ⟨rfl, by decide +kernel⟩

/-! ## What comes out -/

theorem url_read (onward : h.fullUrl? r = some u) (plain : r.uri.scheme = none) :
    u.scheme = some h.scheme ∧
      u.authority.toList = (pasted h r).takeWhile (fun c => !endsAuthority c) ∧
      readPathQuery ((pasted h r).dropWhile fun c => !endsAuthority c) = some u.target := by
  have text : h.fullUrlText r = fullText h.scheme (chosenHost h r) r.uri.pathQueryText := rfl
  rw [Handling.fullUrl?, plain, text, parse_pasted (scheme_web h)] at onward
  simp only [Option.isSome_none, Bool.false_eq_true, ↓reduceIte] at onward
  split at onward
  · split at onward
    · rename_i part tail taken
      split at onward
      · cases onward
      · obtain ⟨p, target, rfl⟩ := Option.map_eq_some_iff.mp onward
        have lead := part_of_take taken
        have rest : tail = (pasted h r).dropWhile fun c => !endsAuthority c := by
          have whole := append_of_take taken
          rw [← List.takeWhile_append_dropWhile (p := fun c => !endsAuthority c)
            (l := (chosenHost h r).toList ++ _), ← lead] at whole
          exact (List.append_cancel_left whole).symm
        exact ⟨rfl, String.toList_ofList.trans lead, rest ▸ target⟩
    · cases onward
  · cases onward

/-- What a request without a full URL comes to. -/
structure Parts (h : Handling) (r : Request) (u : Uri) : Prop where
  /-- The scheme is that of the exchange. -/
  scheme : u.scheme = some h.scheme
  /-- The authority is what stands before the first character that ends one, and the path and the
  query are what is read behind it. -/
  cut : u.authority.toList = (pasted h r).takeWhile (fun c => !endsAuthority c) ∧
    readPathQuery ((pasted h r).dropWhile fun c => !endsAuthority c) = some u.target
  /-- So it is the chosen host just where that has no such character and a path stands behind it. -/
  authority : u.authority = chosenHost h r ↔ Unbroken (chosenHost h r) ∧ r.uri ≠ asterisk
  /-- The path and the query then are those of the target. -/
  target : Unbroken (chosenHost h r) → r.uri ≠ asterisk → u.target = wanted r.uri

/-- A request for which a full URL can be put together gets its parts out of the pasted text. -/
theorem parts_of_pasted (read : parse? text = some r.uri) (plain : r.uri.scheme = none)
    (onward : h.fullUrl? r = some u) : Parts h r u := by
  obtain ⟨scheme, lead, rest⟩ := url_read onward plain
  have kept (unbroken : Unbroken (chosenHost h r)) (path : r.uri ≠ asterisk) :
      u.authority = chosenHost h r ∧ u.target = wanted r.uri := by
    obtain ⟨rooted, target⟩ := wanted_of_target read plain path
    have ends : Stops (fun c => !endsAuthority c) r.uri.pathQueryText.toList := by
      obtain ⟨tail, slash⟩ := List.head?_eq_some_iff.mp rooted
      rw [slash]
      exact stops_cons _ rfl
    rw [pasted, takeWhile_row unbroken ends] at lead
    rw [pasted, dropWhile_row unbroken ends, target] at rest
    exact ⟨String.toList_injective lead, (Option.some.inj rest).symm⟩
  refine ⟨scheme, ⟨lead, rest⟩, ⟨fun same => ?_, fun fine => (kept fine.1 fine.2).1⟩,
    fun unbroken path => (kept unbroken path).2⟩
  rw [same] at lead
  have unbroken : Unbroken (chosenHost h r) := fun c member =>
    List.all_eq_true.mp List.all_takeWhile c (lead ▸ member)
  refine ⟨unbroken, fun star => ?_⟩
  -- An asterisk ends no authority, so it would stand behind the host.
  have behind : r.uri.pathQueryText.toList = ['*'] := by
    rw [star]
    decide +kernel
  have inside : ∀ c ∈ (chosenHost h r).toList ++ ['*'], (!endsAuthority c) = true :=
    List.forall_mem_append.mpr ⟨unbroken, List.forall_mem_singleton.mpr rfl⟩
  rw [pasted, behind, takeWhile_whole inside] at lead
  simpa using congrArg List.length lead

/-- What the stage leaves of a request without a full URL that it lets pass. -/
theorem addressed_url {p : Passage Request} (now : Time.Instant) {target : String}
    (read : parse? target = some p.message.uri) (plain : p.message.uri.scheme = none)
    (onward : (Stage.address.onRequest now p).2 = none) :
    Parts p.handling p.message (Stage.address.onRequest now p).1.message.uri := by
  simp only [Stage.address] at onward ⊢
  cases url : p.handling.fullUrl? p.message with
  | none => simp [url] at onward
  | some u => exact parts_of_pasted read plain url

/-- A host of a version 6 address with a port that goes without saying. -/
theorem bracketed_host_comes_out :
    let r : Request :=
      { uri := { target := ⟨"/p", some "q"⟩ }
        headers := .ofList [("host", Bytes.ofText "[::1]:80")] }
    let p : Passage Request := ⟨{}, {}, r⟩
    parse? "/p?q" = some r.uri ∧ r.uri.scheme = none ∧
      (Stage.address.onRequest .epoch p).2 = none ∧ Unbroken (chosenHost {} r) ∧
      (Stage.address.onRequest .epoch p).1.message.uri.authority = "[::1]" := by
  intro r p
  have read : parse? "/p?q" = some r.uri := by decide +kernel
  have onward : (Stage.address.onRequest .epoch p).2 = none := by decide +kernel
  have parts := addressed_url .epoch read rfl onward
  have unbroken : Unbroken (chosenHost {} r) := List.all_eq_true.mp (by decide +kernel)
  have kept := parts.authority.mpr ⟨unbroken, by decide +kernel⟩
  exact ⟨read, rfl, onward, unbroken, kept.trans (by decide +kernel)⟩

/-- A question mark in a host makes its end, and the path, the query of the host's root. -/
theorem host_takes_path_along :
    let r : Request :=
      { uri := { target := ⟨"/p", none⟩ }, headers := .ofList [("host", Bytes.ofText "h?x")] }
    parse? "/p" = some r.uri ∧ chosenHost {} r = "h?x" ∧
      (Stage.address.onRequest .epoch ⟨{}, {}, r⟩).2 = none ∧
      (Stage.address.onRequest .epoch ⟨{}, {}, r⟩).1.message.uri =
        ⟨some .http, "h", ⟨"", some "x/p"⟩⟩ := by
  decide +kernel

end Wirelog.PastedUrls
