import Mathlib.Data.List.Basic
import StringOrigins.Proofs.SourceMap.Account
import StringOrigins.Proofs.StringsFile.Written
import StringOrigins.Proofs.Xml.Damage

/-! # Damaged strings files

    A strings file that breaks off, or that is two documents, is not scraped
    (`StringsFile.scrape_of_damaged`).  Its directory is a problem and
    nothing else: a survey has the source map that it has without such
    directories, and one problem more for each of them (`of_damaged`). -/

namespace StringOrigins

open Xml.Tree
open Utf8 (Octets)

/-! ## Section 1: The problems of a directory -/

namespace Survey

variable (fs : FileSystem) (ids : IdTable) (root : Option Path)

/-- The problems that a directory makes, whatever is visited before: one or
    none. -/
def troubles (directory : String) : List String :=
  match fs.exists? (fileOf root directory).text,
    StringsFile.scrape fs (fileOf root directory).text with
  | .error error, _ => ["Failed to read strings file: '" ++ (fileOf root directory).text ++ "': " ++
      error.message]
  | .ok true, .error error => [error.message]
  | .ok _, _ => []

/-- A visit adds the problems of its directory. -/
theorem problems_visit (survey : Survey) (directory : String) :
    (visit fs ids root survey directory).problems = survey.problems ++ troubles fs root directory := by
  have way := visited_visit fs ids root survey directory
  generalize visit fs ids root survey directory = later at way
  cases way with
  | unreachable failed => simp [problems, troubles, failed, Visit.problem?]
  | absent missing => simp [problems, troubles, missing, Visit.problem?]
  | refused there failed => simp [problems, troubles, there, failed, Visit.problem?]
  | counted there scraped => simp [problems, troubles, there, scraped, Visit.problem?]

/-- The problems of a survey are those of its directories, in order. -/
theorem problems_of (directories : List String) :
    (of fs ids root directories).problems = directories.flatMap (troubles fs root) := by
  induction directories using List.reverseRecOn with
  | nil => rfl
  | append_singleton directories directory ih =>
    rw [of_concat, problems_visit, ih, List.flatMap_append, List.flatMap_singleton]

/-- Directories that are not accepted add nothing to the source map. -/
theorem sources_of_filter (isKept : String → Bool) (directories : List String)
    (others : ∀ directory ∈ directories, isKept directory = false →
      accepted? fs root directory = none) :
    (of fs ids root (directories.filter isKept)).sources = (of fs ids root directories).sources := by
  have same : accepted fs root (directories.filter isKept) = accepted fs root directories := by
    unfold accepted
    rw [List.filterMap_filter]
    refine List.filterMap_congr fun directory m => ?_
    cases kept : isKept directory with
    | true => simp
    | false => simp [others directory m kept]
  rw [sources_of, sources_of, same]

end Survey

/-! ## Section 2: Damaged strings files -/

/-- A damaged file is not scraped. -/
theorem StringsFile.scrape_of_damaged {fs : FileSystem} {path : String} {octets : Octets}
    (file : fs.read path = .ok octets) (damaged : Xml.IsDamaged octets) :
    ∃ fault, scrape fs path = .error (.malformed path fault) := by
  obtain ⟨fault, failed⟩ := Xml.elements_of_damaged damaged
  refine ⟨fault, ?_⟩
  rw [scrape, file]
  dsimp only
  rw [ofOctets, failed]

namespace Survey

/-- A directory whose strings file is damaged. -/
def HasDamage (fs : FileSystem) (root : Option Path) (directory : String) : Prop :=
  ∃ octets, fs.read (fileOf root directory).text = .ok octets ∧ Xml.IsDamaged octets

variable {fs : FileSystem} {root : Option Path} {directory : String}

theorem accepted?_of_damage (damaged : HasDamage fs root directory) :
    accepted? fs root directory = none := by
  obtain ⟨octets, file, damaged⟩ := damaged
  obtain ⟨fault, failed⟩ := StringsFile.scrape_of_damaged file damaged
  rw [accepted?, failed, FileSystem.exists?_of_read file]

/-- Damage makes one problem. -/
theorem troubles_of_damage (damaged : HasDamage fs root directory) :
    troubles fs root directory = ["Failed to parse strings file: '" ++
      (fileOf root directory).text ++ "': " ++ "<xml error>"] := by
  obtain ⟨octets, file, damaged⟩ := damaged
  obtain ⟨fault, failed⟩ := StringsFile.scrape_of_damaged file damaged
  rw [troubles, FileSystem.exists?_of_read file, failed]
  rfl

end Survey

/-! ## Section 3: The law of damaged files -/

/-- A damaged file is not scraped, whichever it is.  Findings in directories,
    some of them with damaged strings files, have the source map that there
    is without these; and while any directories make their problems one
    after another, each of these makes exactly one. -/
theorem Findings.of_damaged (fs : FileSystem) (ids : IdTable) (root : Option Path)
    (given : Option (List String)) (directories : List String) (isDamaged : String → Bool)
    (damaged : ∀ directory ∈ directories, isDamaged directory = true →
      Survey.HasDamage fs root directory) :
    (∀ path octets, fs.read path = .ok octets → Xml.IsDamaged octets →
      ∃ fault, StringsFile.scrape fs path = .error (.malformed path fault)) ∧
    (of fs ids root given directories).sources =
      (of fs ids root given (directories.filter fun d => !isDamaged d)).sources ∧
    (∀ others, (of fs ids root given others).problems =
      given.map (· ++ others.flatMap (Survey.troubles fs root))) ∧
    ∀ directory ∈ directories, isDamaged directory = true →
      Survey.troubles fs root directory = ["Failed to parse strings file: '" ++
        (Survey.fileOf root directory).text ++ "': " ++ "<xml error>"] := by
  refine ⟨fun _ _ file damaged => StringsFile.scrape_of_damaged file damaged, ?_, fun others => ?_,
    fun directory m flagged => Survey.troubles_of_damage (damaged directory m flagged)⟩
  · rw [of_eq, of_eq]
    refine (Survey.sources_of_filter fs ids root _ directories fun directory m dropped => ?_).symm
    exact Survey.accepted?_of_damage (damaged directory m (by simpa using dropped))
  · rw [of_eq]
    show given.map _ = _
    rw [Survey.problems_of]

/-! ## Section 4: A sample -/

/-- A tree with the strings files of two directories. -/
def Survey.twoFiles (first second : Octets) : FileSystem :=
  ((((((⟨∅, []⟩ : FileSystem).put ["a"] .directory).put ["a", "values"] .directory).put
    ["a", "values", "strings.xml"] (.file first)).put ["b"] .directory).put ["b", "values"]
    .directory).put ["b", "values", "strings.xml"] (.file second)

/-- The strings file of one of the two is read where it stands. -/
theorem Survey.read_of_at? {fs : FileSystem} (home : fs.current = []) {directory : String}
    (m : directory ∈ ["a", "b"]) {content : Octets}
    (outer : fs.at? [directory] = some .directory)
    (inner : fs.at? [directory, "values"] = some .directory)
    (file : fs.at? [directory, "values", "strings.xml"] = some (.file content)) :
    fs.read (fileOf none directory).text = .ok content := by
  have shape : ∀ directory ∈ ["a", "b"], (directory ≠ "." ∧ directory ≠ "..") ∧
      directory.utf8ByteSize ≤ FileSystem.maxNameSize ∧
      FileSystem.holdsNull (fileOf none directory).text = false ∧
      (fileOf none directory).text.utf8ByteSize ≤ FileSystem.maxPathSize ∧
      (fileOf none directory).names = [directory, "values", "strings.xml"] := by
    decide +kernel
  obtain ⟨plain, limit, clean, short, names⟩ := shape directory m
  refine FileSystem.read_of_walk home clean short [directory, "values", "strings.xml"] ?_
  rw [names, FileSystem.walk_directory plain limit outer,
    FileSystem.walk_directory (by decide) (by decide) inner]
  exact FileSystem.walk_file (by decide) (by decide) file

theorem Survey.read_twoFiles (first second : Octets) :
    (twoFiles first second).read (fileOf none "a").text = .ok first ∧
      (twoFiles first second).read (fileOf none "b").text = .ok second := by
  constructor
  · exact read_of_at? rfl (by decide) (by simp [twoFiles]) (by simp [twoFiles])
      (by simp [twoFiles])
  · exact read_of_at? rfl (by decide) (by simp [twoFiles]) (by simp [twoFiles])
      (by simp [twoFiles])

/-- A tree with a strings file that breaks off inside of a character, and
    with the whole one. -/
def Survey.damagedTree : FileSystem :=
  twoFiles ((Utf8.encode StringsFile.sampleDocument.content.print).take 44)
    (Utf8.encode StringsFile.sampleDocument.content.print)

theorem Survey.hasDamage_damagedTree : HasDamage damagedTree none "a" :=
  ⟨_, (read_twoFiles _ _).1, .cut (writes_print StringsFile.sampleDocument.content)
    (List.take_append_drop 44 _) (by decide +kernel)⟩

/-- In this tree, the first directory makes a problem and nothing else. -/
theorem Findings.of_damaged_damagedTree :
    (∀ directory ∈ ["a", "b"], (directory == "a") = true →
      Survey.HasDamage Survey.damagedTree none directory) ∧
    (of Survey.damagedTree ((∅ : IdTable).insert "b" 7) none (some ["c"]) ["a", "b"]).sources =
      (of Survey.damagedTree ((∅ : IdTable).insert "b" 7) none (some ["c"]) ["b"]).sources ∧
    (of Survey.damagedTree ((∅ : IdTable).insert "b" 7) none (some ["c"]) ["a", "b"]).problems =
      some ("c" :: ("Failed to parse strings file: '" ++ (Survey.fileOf none "a").text ++ "': " ++
        "<xml error>") :: Survey.troubles Survey.damagedTree none "b") := by
  have damaged : ∀ directory ∈ ["a", "b"], (directory == "a") = true →
      Survey.HasDamage Survey.damagedTree none directory := by
    intro directory _ flagged
    rw [eq_of_beq flagged]
    exact Survey.hasDamage_damagedTree
  obtain ⟨-, sources, problems, one⟩ :=
    of_damaged Survey.damagedTree ((∅ : IdTable).insert "b" 7) none (some ["c"]) ["a", "b"]
      (· == "a") damaged
  refine ⟨damaged, sources, ?_⟩
  rw [problems, List.flatMap_cons, one "a" List.mem_cons_self rfl]
  simp

end StringOrigins
