import HeaderEnum.Proofs.Naming.IdentifierForm
import Mathlib.Data.List.SplitBy

/-!
# Identifiers as a projection

Making an identifier of a text that is one already changes nothing, so the operation is a projection
onto the texts of word characters that start well. What it makes of any other text is told by the
maximal runs of the text: those of word characters stay, each of the others becomes one underscore,
and only the underscores at the front of the whole differ from that.
-/

namespace HeaderEnum.Naming

/-- An identifier: word characters only, and a good beginning. -/
structure IsIdentifier (text : List Char) : Prop where
  /-- It holds nothing but word characters. -/
  isWord : ∀ c ∈ text, Letter.isWord c = true
  /-- It begins as identifiers do. -/
  startsWell : StartsWell text

/-- Two characters are both word characters, or neither is. -/
def sameKind (c d : Char) : Bool := Letter.isWord c == Letter.isWord d

/-- The maximal runs of word characters and of other characters, in order. -/
def runs (text : List Char) : List (List Char) := text.splitBy sameKind

/-- A run of word characters stays, and a run of others becomes one underscore. -/
def replacedRun (run : List Char) : List Char := if run.all Letter.isWord then run else ['_']

/-! ## Runs of one kind -/

/-- The characters of a run are all of the kind of its first one. -/
theorem isWord_eq_of_isChain {c : Char} {rest : List Char}
    (h : (c :: rest).IsChain fun a b => sameKind a b = true) {d : Char} (hd : d ∈ c :: rest) :
    Letter.isWord d = Letter.isWord c := by
  induction rest generalizing c with
  | nil => rw [List.mem_singleton.mp hd]
  | cons e rest ih =>
    obtain ⟨hce, hrest⟩ := List.isChain_cons_cons.mp h
    have hkind : Letter.isWord c = Letter.isWord e := beq_iff_eq.mp hce
    rcases List.mem_cons.mp hd with rfl | hd
    · rfl
    · rw [ih hrest hd, hkind]

/-- A run of word characters stays in front of what follows it. -/
theorem replaceRuns_append_of_isWord {run : List Char} (h : ∀ c ∈ run, Letter.isWord c = true)
    (rest : List Char) : replaceRuns false (run ++ rest) = run ++ replaceRuns false rest := by
  induction run with
  | nil => rfl
  | cons c run ih =>
    rw [List.cons_append, replaceRuns, if_pos (h c List.mem_cons_self),
      ih fun d hd => h d (List.mem_cons_of_mem _ hd), List.cons_append]

/-- Within a run of other characters nothing is written. -/
theorem replaceRuns_true_append {run : List Char} (h : ∀ c ∈ run, Letter.isWord c = false)
    (rest : List Char) : replaceRuns true (run ++ rest) = replaceRuns true rest := by
  induction run with
  | nil => rfl
  | cons c run ih =>
    rw [List.cons_append, replaceRuns, h c List.mem_cons_self, if_neg Bool.false_ne_true,
      if_pos rfl, ih fun d hd => h d (List.mem_cons_of_mem _ hd)]

/-- A run ends before a word character and at the end of the text. -/
theorem replaceRuns_true_eq {rest : List Char} (h : ∀ c ∈ rest.head?, Letter.isWord c = true) :
    replaceRuns true rest = replaceRuns false rest := by
  cases rest with
  | nil => rfl
  | cons c rest =>
    have hc : Letter.isWord c = true := h c rfl
    rw [replaceRuns, replaceRuns, if_pos hc, if_pos hc]

/-- A whole run of other characters becomes one underscore. -/
theorem replaceRuns_append_of_not_isWord {run rest : List Char} (hne : run ≠ [])
    (h : ∀ c ∈ run, Letter.isWord c = false) (hr : ∀ c ∈ rest.head?, Letter.isWord c = true) :
    replaceRuns false (run ++ rest) = '_' :: replaceRuns false rest := by
  obtain ⟨c, run, rfl⟩ := List.exists_cons_of_ne_nil hne
  have hrun : ∀ d ∈ run, Letter.isWord d = false := fun d hd => h d (List.mem_cons_of_mem _ hd)
  rw [List.cons_append, replaceRuns, h c List.mem_cons_self, if_neg Bool.false_ne_true,
    if_neg Bool.false_ne_true, replaceRuns_true_append hrun, replaceRuns_true_eq hr]

/-! ## The runs of a text -/

/-- Runs that are maximal among each other are replaced one by one. -/
theorem replaceRuns_flatten {parts : List (List Char)} (hne : [] ∉ parts)
    (hkind : ∀ run ∈ parts, run.IsChain fun a b => sameKind a b = true)
    (hmax : parts.IsChain fun a b => ∃ ha hb, sameKind (a.getLast ha) (b.head hb) = false) :
    replaceRuns false parts.flatten = parts.flatMap replacedRun := by
  induction parts with
  | nil => rfl
  | cons run others ih =>
    have hrun : run ≠ [] := fun he => hne (he ▸ List.mem_cons_self)
    have hothers := ih (fun hm => hne (List.mem_cons_of_mem _ hm))
      (fun part hm => hkind part (List.mem_cons_of_mem _ hm)) hmax.tail
    obtain ⟨c, rest, rfl⟩ := List.exists_cons_of_ne_nil hrun
    have hsame : ∀ d ∈ c :: rest, Letter.isWord d = Letter.isWord c :=
      fun d hd => isWord_eq_of_isChain (hkind _ List.mem_cons_self) hd
    rw [List.flatten_cons, List.flatMap_cons, ← hothers]
    cases hc : Letter.isWord c with
    | true =>
      have hword : ∀ d ∈ c :: rest, Letter.isWord d = true := fun d hd => (hsame d hd).trans hc
      rw [replaceRuns_append_of_isWord hword, replacedRun, if_pos (List.all_eq_true.mpr hword)]
    | false =>
      have hother : ∀ d ∈ c :: rest, Letter.isWord d = false := fun d hd => (hsame d hd).trans hc
      -- The run cannot go on behind its last character, or it would not be maximal.
      have hnext : ∀ d ∈ others.flatten.head?, Letter.isWord d = true := by
        intro d hd
        cases others with
        | nil => simp at hd
        | cons next more =>
          obtain ⟨ha, hb, hdiffer⟩ := (List.isChain_cons_cons.mp hmax).1
          have hlast : Letter.isWord ((c :: rest).getLast ha) = false :=
            hother _ (List.getLast_mem ha)
          have hhead : next.head hb = d := by
            rw [List.flatten_cons, List.head?_append, List.head?_eq_some_head hb] at hd
            exact Option.some.inj hd
          rw [sameKind, hlast, hhead] at hdiffer
          simpa using hdiffer
      have hnot : ¬(c :: rest).all Letter.isWord = true :=
        fun ha => ne_true_of_eq_false hc (List.all_eq_true.mp ha c List.mem_cons_self)
      rw [replaceRuns_append_of_not_isWord hrun hother hnext, replacedRun, if_neg hnot]
      rfl

/-- Replacing runs in one pass is replacing each maximal run of the text. -/
theorem replaceRuns_eq_flatMap_runs (text : List Char) :
    replaceRuns false text = (runs text).flatMap replacedRun := by
  have h := replaceRuns_flatten (List.nil_notMem_splitBy sameKind text)
    (fun run hm => List.isChain_of_mem_splitBy hm) (List.isChain_getLast_head_splitBy sameKind text)
  rwa [List.flatten_splitBy] at h

/-! ## The underscores at the front -/

/-- The text from its first character on that is no underscore. -/
def behindUnderscores (text : List Char) : List Char := text.dropWhile (· == '_')

/-- An underscore at the front does not count. -/
@[simp] theorem behindUnderscores_underscore (rest : List Char) :
    behindUnderscores ('_' :: rest) = behindUnderscores rest := rfl

/-- A text with another character at the front is left as it is. -/
theorem behindUnderscores_of_ne {c : Char} (hc : c ≠ '_') (rest : List Char) :
    behindUnderscores (c :: rest) = c :: rest := List.dropWhile_cons_of_neg (by simpa using hc)

/-- No underscore is left at the front. -/
theorem ne_of_mem_head?_behindUnderscores {text : List Char} {c : Char}
    (h : c ∈ (behindUnderscores text).head?) : c ≠ '_' := by
  have hnot := List.head?_dropWhile_not (· == '_') text
  rw [← behindUnderscores, Option.mem_def.mp h] at hnot
  simpa using hnot

/-- A digit is no underscore. -/
theorem ne_underscore_of_isDigit {c : Char} (h : Letter.isDigit c = true) : c ≠ '_' := by
  rintro rfl
  exact absurd h (by decide)

/-- Before the first character is guarded, it does not matter whether one underscore or none is left
of a text of underscores. -/
theorem guardFirst_trimUnderscores (text : List Char) :
    guardFirst (trimUnderscores text) = guardFirst (behindUnderscores text) := by
  fun_induction trimUnderscores text with
  | case1 c rest ih => rw [ih, behindUnderscores_underscore]
  | case2 text h =>
    cases text with
    | nil => rfl
    | cons c rest =>
      by_cases hc : c = '_'
      · subst hc
        cases rest with
        | nil => rfl
        | cons d others => exact absurd rfl (h d others)
      · rw [behindUnderscores_of_ne hc]

/-- Guarding puts nothing but underscores in front. -/
theorem behindUnderscores_guardFirst {text : List Char} (h : ∀ c ∈ text.head?, c ≠ '_') :
    behindUnderscores (guardFirst text) = text := by
  cases text with
  | nil => rfl
  | cons c rest =>
    have hc : c ≠ '_' := h c rfl
    rw [guardFirst]
    split
    · rw [behindUnderscores_underscore, behindUnderscores_of_ne hc]
    · rw [behindUnderscores_of_ne hc]

/-- The identifier of a text is the text with its runs replaced, without underscores at the front
and with its first character guarded. -/
theorem identifierOf_eq_guardFirst (text : List Char) :
    identifierOf text = guardFirst (behindUnderscores ((runs text).flatMap replacedRun)) := by
  rw [identifierOf, guardFirst_trimUnderscores, replaceRuns_eq_flatMap_runs]

/-! ## Identifiers stay as they are -/

/-- What is made of a text is an identifier. -/
theorem isIdentifier_identifierOf (text : List Char) : IsIdentifier (identifierOf text) :=
  ⟨fun _ hc => isWord_of_mem_identifierOf hc, startsWell_identifierOf text⟩

/-- An identifier stays as it is. -/
theorem identifierOf_of_isIdentifier {text : List Char} (h : IsIdentifier text) :
    identifierOf text = text := by
  rw [identifierOf, replaceRuns_of_isWord h.isWord, guardFirst_trimUnderscores]
  cases h.startsWell with
  | underscore => rfl
  | @letter c rest hc hd =>
    rw [behindUnderscores_of_ne hc, guardFirst, hd, if_neg Bool.false_ne_true]
  | @digit c rest hd =>
    rw [behindUnderscores_underscore, behindUnderscores_of_ne (ne_underscore_of_isDigit hd),
      guardFirst, if_pos hd]

/-- Sanitizing makes an identifier of every text and leaves exactly the identifiers as they are.
Apart from underscores at the front the result is the text with each maximal run of other
characters replaced by one underscore; at the front stands one underscore when nothing else is left
or a digit would come first, and none otherwise. -/
theorem sanitize_projects (text : String) :
    sanitize text ≠ "" ∧ IsIdentifier (sanitize text).toList ∧
    (sanitize text = text ↔ IsIdentifier text.toList) ∧
    sanitize (sanitize text) = sanitize text ∧
    let rest := behindUnderscores ((runs text.toList).flatMap replacedRun)
    behindUnderscores (sanitize text).toList = rest ∧
      (sanitize text).toList = match rest with
        | [] => ['_']
        | c :: others => if Letter.isDigit c then '_' :: c :: others else c :: others := by
  have hlist : (sanitize text).toList = identifierOf text.toList := String.toList_ofList
  have hform : IsIdentifier (sanitize text).toList := hlist ▸ isIdentifier_identifierOf text.toList
  have hkept : ∀ other : String, IsIdentifier other.toList → sanitize other = other := by
    intro other ho
    rw [sanitize, identifierOf_of_isIdentifier ho, String.ofList_toList]
  refine ⟨?_, hform, ⟨fun he => he ▸ hform, hkept text⟩, hkept _ hform, ?_, ?_⟩
  · intro he
    have hempty : StartsWell [] := by simpa [he] using hform.startsWell
    cases hempty
  · rw [hlist, identifierOf_eq_guardFirst]
    exact behindUnderscores_guardFirst fun c hc => ne_of_mem_head?_behindUnderscores hc
  · rw [hlist, identifierOf_eq_guardFirst]
    rfl

example : sanitize "--2Fast_-Name!!" = "_2Fast__Name_" := by decide +kernel

end HeaderEnum.Naming
