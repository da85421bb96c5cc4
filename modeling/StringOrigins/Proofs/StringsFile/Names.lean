import StringOrigins.Proofs.FileSystem.Operations
import StringOrigins.StringsFile

/-! # The names of definitions

    Definitions are read for their names one after another.  Either all of
    them have a name, and the names come out in order, or the first one
    without a name is reported (`naming_namesOf`). -/

namespace StringOrigins.StringsFile

variable {path : String}

/-! ## Section 1: Reading definitions -/

/-- What comes of reading definitions for their names. -/
inductive Naming (path : String) (definitions : List (ResourceKind × Xml.Element)) :
    Except ScrapeError (List String) → Prop where
  /-- All have names. -/
  | named (names : List String) (all : definitions.map (fun d => name? d.2) = names.map some) :
      Naming path definitions (.ok names)
  /-- One has no name, and all in front of it have one. -/
  | nameless (before after : List (ResourceKind × Xml.Element)) (kind : ResourceKind)
      (element : Xml.Element) (split : definitions = before ++ (kind, element) :: after)
      (earlier : ∀ d ∈ before, name? d.2 ≠ none) (missing : name? element = none) :
      Naming path definitions (.error (.nameless path kind element.place.line))

theorem naming_namesOf (path : String) (definitions : List (ResourceKind × Xml.Element)) :
    Naming path definitions (namesOf path definitions) := by
  -- Behind a definition with a name, the rest decides.
  induction definitions with
  | nil => exact .named [] rfl
  | cons first rest ih =>
    obtain ⟨kind, element⟩ := first
    rw [namesOf]
    rcases found : name? element with _ | name
    · exact .nameless [] rest kind element rfl (fun d m => absurd m List.not_mem_nil) found
    · generalize namesOf path rest = result at ih
      cases ih with
      | named names all =>
        refine .named (name :: names) ?_
        rw [List.map_cons, List.map_cons, all, found]
      | nameless before after kind' element' split earlier missing =>
        refine .nameless ((kind, element) :: before) after kind' element' ?_ ?_ missing
        · rw [split, List.cons_append]
        · intro d m
          rcases List.mem_cons.1 m with rfl | m
          · rw [found]
            exact Option.some_ne_none name
          · exact earlier d m

/-- Definitions have names if none of them lacks one. -/
theorem namesOf_eq_ok_iff {definitions : List (ResourceKind × Xml.Element)}
    {names : List String} :
    namesOf path definitions = .ok names ↔
      definitions.map (fun d => name? d.2) = names.map some := by
  have way := naming_namesOf path definitions
  generalize namesOf path definitions = result at way
  cases way with
  | named found all =>
    rw [all, List.map_inj_right (fun _ _ => Option.some.inj)]
    exact ⟨Except.ok.inj, congrArg _⟩
  | nameless before after kind element split _ missing =>
    constructor
    · intro done
      cases done
    · intro all
      -- A name of the nameless one would have to be among the names.
      have there : none ∈ names.map some := by
        rw [← all, split, ← missing]
        exact List.mem_map_of_mem (List.mem_append_right before List.mem_cons_self)
      obtain ⟨name, -, eq⟩ := List.mem_map.1 there
      cases eq

/-! ## Section 2: Scraping a file -/

/-- The only error that tells nothing of the file comes from its path. -/
theorem ofOctets_ne_null (octets : Utf8.Octets) :
    ofOctets path octets ≠ .error .nullCharacter := by
  unfold ofOctets
  rcases Xml.elements octets with fault | elements
  · intro failed
    cases failed
  · show namesOf path (definitions elements) ≠ _
    have way := naming_namesOf path (definitions elements)
    generalize namesOf path (definitions elements) = result at way
    intro failed
    rw [failed] at way
    cases way

/-- A path without U+0000 is asked for. -/
theorem scrape_ne_null {fs : FileSystem} (clean : FileSystem.holdsNull path = false) :
    scrape fs path ≠ .error .nullCharacter := by
  intro failed
  unfold scrape at failed
  cases result : fs.read path with
  | ok octets =>
    rw [result] at failed
    exact ofOctets_ne_null octets failed
  | error error =>
    rw [result] at failed
    cases error with
    | nullCharacter =>
      rw [FileSystem.null_of_read result] at clean
      cases clean
    | refused cause at_ => cases failed
    | notMoved cause source target => cases failed

end StringOrigins.StringsFile
