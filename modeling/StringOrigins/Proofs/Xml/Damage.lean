import StringOrigins.Proofs.Xml.Encoding
import StringOrigins.Proofs.Xml.Lookahead

/-! # Damaged documents

    A written document whose octets are cut short, wherever the cut is, is
    refused, and so are two of them one behind the other
    (`elements_of_damaged`).

    What carries this along a tree is the number of elements that are still
    to be ended: as long as there is one, a text may end nowhere, so a text
    that is refused is refused behind any content as well
    (`IsRefused.of_writes`). -/

namespace StringOrigins.Xml

open Xml.Tree
open Utf8 (Octets)

/-! ## Section 1: Steps that fail -/

section steps

variable {doctype : Doctype} {depth floor : Nat} {whole : List Char} {builder : Builder}

/-- What is no token is refused. -/
theorem content_of_fault {c : Char} {ahead : List Char} {fault : Fault}
    (failed : Token.next c ahead = .error fault) :
    content doctype depth floor whole (c :: ahead) builder = .error fault := by
  rw [content]
  split
  · rename_i eq
    rw [failed] at eq
    cases eq
    rfl
  · rename_i eq
    rw [failed] at eq
    cases eq

/-- A token that cannot be taken is refused. -/
theorem content_of_take_error {c : Char} {ahead rest : List Char} {token : Token} {fault : Fault}
    (read : Token.next c ahead = .ok (token, rest)) (plain : ∀ name, token ≠ .entity name)
    (failed : builder.take doctype depth floor whole token = .error fault) :
    content doctype depth floor whole (c :: ahead) builder = .error fault := by
  rw [content]
  split
  · rename_i eq
    rw [read] at eq
    cases eq
  · rename_i eq
    rw [read] at eq
    cases eq
    cases token with
    | blank => cases failed
    | aside => cases failed
    | data =>
      rw [Builder.take] at failed
      simp only [failed]
    | opening tag left =>
      rw [Builder.take] at failed
      simp only [failed]
    | closing name =>
      rw [Builder.take] at failed
      simp only [failed]
    | entity name => exact absurd rfl (plain name)

/-- Where an element is still to be ended, the text must not end. -/
theorem content_nil_of_open (open_ : builder.unfinished.length ≠ floor) :
    content doctype depth floor whole [] builder = .error .unbalancedEntity := by
  rw [content]
  exact if_neg open_

end steps

/-! ## Section 2: Texts that are refused -/

/-- What may be left of a text: all of it, or if it is cut, a beginning that
    is not all. -/
def Remains (isCut : Bool) (part text : List Char) : Prop :=
  if isCut then ∃ missing, missing ≠ [] ∧ part ++ missing = text else part = text

/-- What is left in front of a text, or what is left of a token and of the
    text behind it. -/
theorem Remains.cases_token {isCut : Bool} {c : Char} {ahead behind part : List Char}
    (remains : Remains isCut part (c :: (ahead ++ behind))) :
    (isCut = true ∧ part = []) ∨
      (∃ taken cut, part = c :: taken ∧ taken ++ cut = ahead ∧ cut ≠ []) ∨
      ∃ left, part = c :: (ahead ++ left) ∧ Remains isCut left behind := by
  cases isCut with
  | false => exact .inr (.inr ⟨behind, remains, rfl⟩)
  | true =>
    obtain ⟨missing, short, split⟩ := remains
    cases part with
    | nil => exact .inl ⟨rfl, rfl⟩
    | cons d taken =>
      obtain ⟨rfl, split'⟩ := List.cons.inj split
      rcases List.append_eq_append_iff.1 split' with ⟨cut, same, later⟩ | ⟨left, same, later⟩
      · by_cases full : cut = []
        · rw [full, List.append_nil] at same
          rw [full, List.nil_append] at later
          refine .inr (.inr ⟨[], by rw [same, List.append_nil], missing, short, later⟩)
        · exact .inr (.inl ⟨taken, cut, rfl, same.symm, full⟩)
      · exact .inr (.inr ⟨left, by rw [same], missing, short, later.symm⟩)

/-- What is left of a text is refused behind every beginning of a document
    in which a given number of elements are still to be ended. -/
def IsRefused (isCut : Bool) (unended : Nat) (text : List Char) : Prop :=
  ∀ (part whole : List Char) (builder : Builder), Remains isCut part text →
    builder.elements ≠ [] → builder.unfinished.length = unended →
    ∃ fault, contentOf whole part builder = .error fault

/-- A token leads from one number of elements that are to be ended to
    another one, unless it is refused. -/
def Token.Leads (token : Token) (unended later : Nat) : Prop :=
  (∀ name, token ≠ .entity name) ∧
    ∀ (whole : List Char) (builder next : Builder), builder.unfinished.length = unended →
      builder.take .empty maxEntityDepth 0 whole token = .ok next →
      next.unfinished.length = later ∧ (builder.elements ≠ [] → next.elements ≠ [])

namespace Token

theorem leads_aside (unended : Nat) : Token.aside.Leads unended unended := by
  refine ⟨fun _ => nofun, ?_⟩
  intro whole builder next length taken
  cases taken
  exact ⟨length, id⟩

theorem leads_blank (unended : Nat) : Token.blank.Leads unended unended := by
  refine ⟨fun _ => nofun, ?_⟩
  intro whole builder next length taken
  cases taken
  exact ⟨length, id⟩

theorem leads_data (unended : Nat) : Token.data.Leads unended unended := by
  refine ⟨fun _ => nofun, ?_⟩
  intro whole builder next length taken
  have same : builder.data = .ok next := taken
  rw [Builder.data] at same
  split at same
  · cases same
  · cases same
    exact ⟨length, id⟩

theorem leads_closing (name : List Char) (unended : Nat) :
    (Token.closing name).Leads (unended + 1) unended := by
  refine ⟨fun _ => nofun, ?_⟩
  intro whole builder next length taken
  have same : builder.finish 0 name = .ok next := taken
  rw [Builder.finish] at same
  split at same
  · cases same
  · rename_i inner outer opened
    split at same
    · cases same
    · split at same
      · cases same
        rw [opened, List.length_cons] at length
        exact ⟨Nat.succ.inj length, id⟩
      · cases same

theorem leads_opening (tag : Tag) (left : List Char) (unended : Nat) :
    (Token.opening tag left).Leads unended (unended + if tag.isEmpty then 0 else 1) := by
  refine ⟨fun _ => nofun, ?_⟩
  intro whole builder next length taken
  obtain ⟨-, ⟨element, elements, -⟩, opened⟩ := Builder.of_start taken
  rw [elements, opened, length]
  exact ⟨rfl, fun _ => List.cons_ne_nil _ _⟩

end Token

/-- What is read as a token, whatever stands behind it, and leads from one
    number of elements that are to be ended to another one. -/
def Reads (c : Char) (ahead : List Char) (unended later : Nat) : Prop :=
  c ≠ ']' ∧ ∀ rest, ∃ token, Token.next c (ahead ++ rest) = .ok (token, rest) ∧
    token.Leads unended later

/-! ## Section 3: One step -/

section step

variable {isCut : Bool} {c : Char} {ahead behind : List Char} {unended later : Nat}

/-- Behind a token, what is left of the text is refused; so it is with the
    token, if that is not cut off altogether. -/
theorem fault_of_token {whole part : List Char} {builder : Builder}
    (reads : Reads c ahead unended later) (remains : Remains isCut part (c :: (ahead ++ behind)))
    (some' : part ≠ []) (length : builder.unfinished.length = unended)
    (onward : ∀ left token next, Remains isCut left behind →
      Token.next c (ahead ++ left) = .ok (token, left) →
      builder.take .empty maxEntityDepth 0 whole token = .ok next →
      next.unfinished.length = later → (builder.elements ≠ [] → next.elements ≠ []) →
      ∃ fault, contentOf whole left next = .error fault) :
    ∃ fault, contentOf whole part builder = .error fault := by
  obtain ⟨bracket, reads⟩ := reads
  rcases remains.cases_token with
    ⟨-, empty⟩ | ⟨taken, cut, rfl, rfl, short⟩ | ⟨left, rfl, remains'⟩
  · exact absurd empty some'
  · obtain ⟨token, read, -⟩ := reads []
    rw [List.append_nil] at read
    obtain ⟨fault, failed⟩ := Token.fault_of_cut read (List.length_pos_iff.2 short) bracket
    exact ⟨fault, content_of_fault failed⟩
  · obtain ⟨token, read, plain, leads⟩ := reads left
    cases taken : builder.take .empty maxEntityDepth 0 whole token with
    | error fault => exact ⟨fault, content_of_take_error read plain taken⟩
    | ok next =>
      obtain ⟨length', started⟩ := leads whole builder next length taken
      rw [contentOf, content_of_next read taken]
      exact onward left token next remains' read taken length' started

/-- A text that is refused is refused behind a token. -/
theorem IsRefused.of_token (reads : Reads c ahead unended later) (open_ : unended ≠ 0)
    (refused : IsRefused isCut later behind) :
    IsRefused isCut unended (c :: (ahead ++ behind)) := by
  intro part whole builder remains started length
  by_cases empty : part = []
  · subst empty
    exact ⟨_, content_nil_of_open (by rw [length]; exact open_)⟩
  · refine fault_of_token reads remains empty length ?_
    intro left token next remains' _ _ length' started'
    exact refused left whole next remains' (started' started) length'

/-- So it is behind a character that stands for itself. -/
theorem IsRefused.of_character (free : c ∉ textMarks) (open_ : unended ≠ 0)
    (refused : IsRefused isCut unended behind) : IsRefused isCut unended (c :: behind) := by
  have notLess : c ≠ '<' := by
    rintro rfl
    exact free (by decide)
  have notAmpersand : c ≠ '&' := by
    rintro rfl
    exact free (by decide)
  intro part whole builder remains started length
  have remains' : Remains isCut part (c :: ([] ++ behind)) := remains
  rcases remains'.cases_token with
    ⟨-, rfl⟩ | ⟨taken, cut, -, none', short⟩ | ⟨left, rfl, onward⟩
  · exact ⟨_, content_nil_of_open (by rw [length]; exact open_)⟩
  · exact absurd (List.append_eq_nil_iff.1 none').2 short
  · rcases Token.next_character notLess notAmpersand left with
      ⟨token, kind, read⟩ | ⟨-, fault, failed⟩
    · have leads : token.Leads unended unended := by
        rcases kind with rfl | rfl
        · exact Token.leads_blank unended
        · exact Token.leads_data unended
      cases taken : builder.take .empty maxEntityDepth 0 whole token with
      | error fault => exact ⟨fault, content_of_take_error read leads.1 taken⟩
      | ok next =>
        obtain ⟨length', started'⟩ := leads.2 whole builder next length taken
        obtain ⟨fault, failed⟩ := refused left whole next onward (started' started) length'
        exact ⟨fault, (content_of_next read taken).trans failed⟩
    · exact ⟨fault, content_of_fault failed⟩

end step

/-! ## Section 4: Trees -/

section trees

variable {isCut : Bool} {unended : Nat} {tail : List Char}

/-- A start tag as a token. -/
theorem reads_label (label : Label) {attributes : List Char}
    (tag : WritesAttributes label.attributes attributes) (isEmpty : Bool) (unended : Nat) :
    Reads '<' (label.name ++ (attributes ++ endMark isEmpty)) unended
      (unended + if isEmpty then 0 else 1) := by
  refine ⟨by decide, fun rest => ?_⟩
  obtain ⟨all, opened, -⟩ := Token.next_label label tag isEmpty rest
  refine ⟨.opening ⟨label.name, all, isEmpty⟩ (endMark isEmpty ++ rest), ?_,
    Token.leads_opening ⟨label.name, all, isEmpty⟩ _ unended⟩
  simpa only [List.append_assoc] using opened

/-- An end tag as a token. -/
theorem reads_end {name : List Char} (plain : isPlainName name = true) (unended : Nat) :
    Reads '<' ('/' :: (name ++ ['>'])) (unended + 1) unended := by
  refine ⟨by decide, fun rest => ⟨.closing name, ?_, Token.leads_closing name unended⟩⟩
  simpa only [List.cons_append, List.append_assoc, List.nil_append] using
    Token.next_finish plain rest

theorem reads_reference {c : Char} {body : List Char} (refers : Refers c body)
    (allowed : isAllowed c.toNat = true) (unended : Nat) : Reads '&' body unended unended :=
  ⟨by decide, fun rest => ⟨.data, Token.next_reference refers allowed rest,
    Token.leads_data unended⟩⟩

theorem reads_section (part : Section) (unended : Nat) :
    Reads '<' ("![CDATA[".toList ++ (part.text ++ "]]>".toList)) unended unended := by
  refine ⟨by decide, fun rest => ⟨.data, ?_, Token.leads_data unended⟩⟩
  simpa using Token.next_section part rest

theorem reads_comment (part : Comment) (unended : Nat) :
    Reads '<' ("!--".toList ++ (part.text ++ "-->".toList)) unended unended := by
  refine ⟨by decide, fun rest => ⟨.aside, ?_, Token.leads_aside unended⟩⟩
  simpa using Token.next_comment part rest

theorem reads_instruction (part : Instruction) (unended : Nat) :
    Reads '<' ('?' :: (part.target ++ ' ' :: (part.text ++ "?>".toList))) unended unended := by
  refine ⟨by decide, fun rest => ⟨.aside, ?_, Token.leads_aside unended⟩⟩
  simpa using Token.next_instruction part rest

/-- An instruction without a text. -/
theorem reads_target (part : Instruction) (unended : Nat) :
    Reads '<' ('?' :: (part.target ++ "?>".toList)) unended unended := by
  refine ⟨by decide, fun rest => ⟨.aside, ?_, Token.leads_aside unended⟩⟩
  simpa using Token.next_instruction_target part rest

theorem IsRefused.of_spells {s spelled : List Char} (spells : Spells textMarks s spelled)
    (allowed : areAllowed s = true) (open_ : unended ≠ 0) (refused : IsRefused isCut unended tail) :
    IsRefused isCut unended (spelled ++ tail) := by
  induction spells with
  | nil => exact refused
  | @plain c s written free more ih =>
    rw [areAllowed, List.all_cons, Bool.and_eq_true] at allowed
    exact .of_character free open_ (ih allowed.2)
  | @reference c s body written refers more ih =>
    rw [areAllowed, List.all_cons, Bool.and_eq_true] at allowed
    rw [List.cons_append, List.append_assoc]
    exact .of_token (reads_reference refers allowed.1 unended) open_ (ih allowed.2)

/-- A text that is refused is refused behind a written tree, as long as
    there is an element around the tree. -/
theorem IsRefused.of_writes {content : Content} {written : List Char}
    (writes : Writes content written) (open_ : unended ≠ 0)
    (refused : IsRefused isCut unended tail) : IsRefused isCut unended (written ++ tail) := by
  -- From the end of the tree to its start, token by token.
  induction writes generalizing unended tail with
  | none => exact refused
  | @element label inside rest attributes inner outer tag _ _ ihInside ihRest =>
    have behind : IsRefused isCut unended (outer ++ tail) := ihRest open_ refused
    have ended : IsRefused isCut (unended + 1) ('<' :: ('/' :: (label.name ++ ['>']) ++
        (outer ++ tail))) :=
      .of_token (reads_end label.isName unended) (Nat.succ_ne_zero _) behind
    have inside' := ihInside (Nat.succ_ne_zero _) ended
    have whole := IsRefused.of_token (reads_label label tag false unended) open_ inside'
    simpa [endMark] using whole
  | @empty label rest attributes outer tag _ ih =>
    have behind : IsRefused isCut unended (outer ++ tail) := ih open_ refused
    have whole := IsRefused.of_token (reads_label label tag true unended) open_ behind
    simpa [endMark] using whole
  | @text part rest spelled outer spells _ ih =>
    rw [List.append_assoc]
    exact .of_spells spells part.isAllowed open_ (ih open_ refused)
  | @characters part rest outer _ ih =>
    have whole := IsRefused.of_token (reads_section part unended) open_ (ih open_ refused)
    simpa using whole
  | @comment part rest outer _ ih =>
    have whole := IsRefused.of_token (reads_comment part unended) open_ (ih open_ refused)
    simpa using whole
  | @instruction part rest outer _ ih =>
    have whole := IsRefused.of_token (reads_instruction part unended) open_ (ih open_ refused)
    simpa using whole
  | @target part rest outer empty _ ih =>
    have whole := IsRefused.of_token (reads_target part unended) open_ (ih open_ refused)
    simpa using whole

end trees

/-! ## Section 5: Documents -/

section documents

variable {isCut : Bool} {root : Label} {inside : Content} {text tail part : List Char}

/-- A written document starts with the start tag of its root element, and
    what is refused behind the document is refused behind the rest of it. -/
theorem root_of_writes (writes : Writes (.element root inside .none) text) (isCut : Bool)
    (tail : List Char) :
    ∃ attributes isEmpty behind, WritesAttributes root.attributes attributes ∧
      text = '<' :: (root.name ++ (attributes ++ endMark isEmpty) ++ behind) ∧
      (IsRefused isCut 0 tail → IsRefused isCut (if isEmpty then 0 else 1) (behind ++ tail)) := by
  cases writes with
  | @element _ _ _ attributes inner _ tag content more =>
    cases more with
    | none =>
      refine ⟨attributes, false, inner ++ ('<' :: '/' :: (root.name ++ ['>'])), tag, ?_, ?_⟩
      · simp [endMark]
      · intro refused
        have ended : IsRefused isCut 1 ('<' :: ('/' :: (root.name ++ ['>']) ++ tail)) :=
          .of_token (reads_end root.isName 0) Nat.one_ne_zero refused
        have whole := IsRefused.of_writes content Nat.one_ne_zero ended
        simpa using whole
  | @empty _ _ attributes _ tag more =>
    cases more with
    | none =>
      refine ⟨attributes, true, [], tag, ?_, id⟩
      simp [endMark]

/-- The start tag of the root element is taken only if no element has started
    yet, and then one has. -/
theorem started_of_root {attributes left whole : List Char} {isEmpty : Bool} {token : Token}
    {builder next : Builder} (tag : WritesAttributes root.attributes attributes)
    (read : Token.next '<' (root.name ++ (attributes ++ endMark isEmpty) ++ left) =
      .ok (token, left))
    (taken : builder.take .empty maxEntityDepth 0 whole token = .ok next) :
    (builder.unfinished = [] → builder.elements = []) ∧ next.elements ≠ [] := by
  obtain ⟨all, opened, -⟩ := Token.next_label root tag isEmpty left
  rw [List.append_assoc, List.append_assoc, opened] at read
  obtain ⟨rfl, -⟩ := Prod.mk.inj (Except.ok.inj read)
  obtain ⟨oneRoot, ⟨element, elements, -⟩, -⟩ := Builder.of_start taken
  refine ⟨oneRoot, ?_⟩
  rw [elements]
  exact List.cons_ne_nil _ _

/-- What is left of a document and of a text behind it is refused if that
    text is. -/
theorem fault_of_root (writes : Writes (.element root inside .none) text) (whole : List Char)
    (refused : IsRefused isCut 0 tail) (remains : Remains isCut part (text ++ tail))
    (some' : part ≠ []) : ∃ fault, contentOf whole part .initial = .error fault := by
  obtain ⟨attributes, isEmpty, behind, tag, rfl, onward⟩ := root_of_writes writes isCut tail
  rw [List.cons_append, List.append_assoc] at remains
  refine fault_of_token (reads_label root tag isEmpty 0) remains some' rfl ?_
  intro left token next remains' read taken length _
  exact onward refused left whole next remains' (started_of_root tag read taken).2
    (by simpa using length)

/-- Behind a document there is no other one. -/
theorem isRefused_of_writes (writes : Writes (.element root inside .none) text) :
    IsRefused false 0 text := by
  intro part whole builder remains started length
  obtain ⟨attributes, isEmpty, behind, tag, rfl, -⟩ := root_of_writes writes false []
  refine fault_of_token (reads_label root tag isEmpty 0) remains ?_ length ?_
  · rw [show part = _ from remains]
    exact List.cons_ne_nil _ _
  · intro left token next _ read taken _ _
    exact absurd ((started_of_root tag read taken).1 (List.length_eq_zero_iff.1 length)) started

/-- Nothing is left behind a cut document. -/
theorem isRefused_nil : IsRefused true 0 [] := by
  intro part whole builder remains
  obtain ⟨missing, short, empty⟩ := remains
  exact absurd (List.append_eq_nil_iff.1 empty).2 short

/-- The texts of documents start with content, and are refused if their
    content is. -/
theorem elementsOfText_of_fault {c : Char} {more : List Char} (starts : isNameStart c = true)
    (remains : ∃ missing, part ++ missing = '<' :: c :: more)
    (failed : part ≠ [] → ∃ fault, contentOf part part .initial = .error fault) :
    ∃ fault, elementsOfText part = .error fault := by
  by_cases empty : part = []
  · subst empty
    refine ⟨.faultyRoot, ?_⟩
    have bare : prolog [] = .ok (.empty, []) := by
      rw [prolog]
      rfl
    have ended : contentOf [] [] .initial = .ok .initial := by
      rw [contentOf, content]
      rfl
    unfold elementsOfText
    simp only [bind, Except.bind, show Declaration.read [] = .ok (none, []) from rfl, bare, ended]
    rfl
  · obtain ⟨fault, failed⟩ := failed empty
    refine ⟨fault, ?_⟩
    obtain ⟨undeclared, bare⟩ : Declaration.read part = .ok (none, part) ∧
        prolog part = .ok (.empty, part) := by
      obtain ⟨missing, split⟩ := remains
      obtain ⟨d, part, rfl⟩ := List.exists_cons_of_ne_nil empty
      obtain ⟨rfl, behind⟩ := List.cons.inj split
      cases part with
      | nil =>
        refine ⟨rfl, ?_⟩
        rw [prolog]
        rfl
      | cons e part =>
        obtain ⟨rfl, -⟩ := List.cons.inj behind
        exact ⟨Declaration.read_of_ne (ne_of_isNameStart starts (by decide)) part,
          prolog_of_isNameStart starts part⟩
    unfold elementsOfText
    simp only [bind, Except.bind, undeclared, bare, failed]

/-- A written document that is cut is refused, as is one behind which another
    text stands that is refused there. -/
theorem elementsOfText_of_remains (writes : Writes (.element root inside .none) text)
    (refused : IsRefused isCut 0 tail) (remains : Remains isCut part (text ++ tail)) :
    ∃ fault, elementsOfText part = .error fault := by
  obtain ⟨c, more, rfl, starts⟩ := starts_of_writes writes
  have beginning : ∃ missing, part ++ missing = '<' :: c :: (more ++ tail) := by
    cases isCut with
    | true =>
      obtain ⟨missing, -, split⟩ := remains
      exact ⟨missing, split⟩
    | false =>
      rw [show part = _ from remains]
      exact ⟨[], List.append_nil _⟩
  exact elementsOfText_of_fault starts beginning (fault_of_root writes part refused remains)

end documents

/-! ## Section 6: Octets -/

/-- The octets of a damaged document. -/
inductive IsDamaged : Octets → Prop where
  /-- They break off, maybe inside of a character. -/
  | cut {root : Label} {inside : Content} {text : List Char} {octets missing : Octets}
      (writes : Writes (.element root inside .none) text)
      (whole : octets ++ missing = Utf8.encode text) (short : missing ≠ []) : IsDamaged octets
  /-- They are those of two documents. -/
  | joined {root root' : Label} {inside inside' : Content} {text text' : List Char}
      (first : Writes (.element root inside .none) text)
      (second : Writes (.element root' inside' .none) text') :
      IsDamaged (Utf8.encode text ++ Utf8.encode text')

/-- What is decoded of a cut text is the beginning of it that is there. -/
theorem beginning_of_decode {c : Char} {more part : List Char} {octets missing : Octets}
    (starts : isNameStart c = true) (whole : octets ++ missing = Utf8.encode ('<' :: c :: more))
    (decoded : Encoding.decode octets = .ok part) :
    ∃ rest, part ++ rest = '<' :: c :: more ∧ octets = Utf8.encode part := by
  have told : Encoding.detect octets = .ok (.utf8, octets) := by
    obtain ⟨b, rest, split, notNull, notMark⟩ := encode_of_tag starts more
    rw [split] at whole
    cases octets with
    | nil => rfl
    | cons a octets =>
      obtain ⟨rfl, behind⟩ := List.cons.inj whole
      cases octets with
      | nil => rfl
      | cons b' octets =>
        obtain ⟨rfl, -⟩ := List.cons.inj behind
        exact detect_of_tag notNull notMark
  rw [Encoding.decode, told] at decoded
  dsimp only at decoded
  rcases Utf8.decode_of_cut whole with ⟨front, rest, split, rfl⟩ | ⟨fault, failed⟩
  · rw [Encoding.decode?, Utf8.decode_encode] at decoded
    dsimp only [Except.toOption] at decoded
    split at decoded
    · cases decoded
      exact ⟨rest, split, rfl⟩
    · cases decoded
  · rw [Encoding.decode?, failed] at decoded
    cases decoded

/-- A damaged document is refused. -/
theorem elements_of_damaged {octets : Octets} (damaged : IsDamaged octets) :
    ∃ fault, elements octets = .error fault := by
  rw [elements]
  cases decoded : Encoding.decode octets with
  | error fault => exact ⟨fault, rfl⟩
  | ok part =>
    cases damaged with
    | @cut root inside text _ missing writes whole short =>
      obtain ⟨c, more, rfl, starts⟩ := starts_of_writes writes
      obtain ⟨rest, split, rfl⟩ := beginning_of_decode starts whole decoded
      refine elementsOfText_of_remains writes isRefused_nil ⟨rest, ?_, ?_⟩
      · -- If no characters are missing, no octets are.
        rintro rfl
        rw [List.append_nil] at split
        rw [split] at whole
        exact short (List.append_right_eq_self.1 whole)
      · rw [List.append_nil]
        exact split
    | @joined root root' inside inside' text text' first second =>
      obtain ⟨c, more, rfl, starts⟩ := starts_of_writes first
      have together : Utf8.encode ('<' :: c :: more) ++ Utf8.encode text' =
          Utf8.encode ('<' :: c :: more ++ text') := List.flatMap_append.symm
      have allowed : areAllowed ('<' :: c :: more ++ text') = true := by
        rw [areAllowed, List.all_append, Bool.and_eq_true]
        exact ⟨areAllowed_of_writes first, areAllowed_of_writes second⟩
      have text : Encoding.decode (Utf8.encode ('<' :: c :: more ++ text')) =
          .ok ('<' :: c :: more ++ text') :=
        decode_of_stores .utf8 allowed ⟨c, more ++ text', rfl, starts⟩
      rw [together, text] at decoded
      exact elementsOfText_of_remains first (isRefused_of_writes second) (Except.ok.inj decoded).symm

end StringOrigins.Xml
