/-
This file says what an element of a page remembers. The classes of an element stand in one text, with a
blank between each two, and are read from it anew each time; so the classes that were written come back
only if each of them is a word and none is there twice. All classes that are ever read are of this kind,
and taking part in a swap they stay so. Whether a panel is open is remembered apart from its classes.
-/

import ReleasePlayer.Page.Document
import ReleasePlayer.Proofs.Page.OneClass

namespace ReleasePlayer

/-! ### Words of a text -/

namespace Text

variable {separates : Char → Bool}

/-- The fields of a text are what the library's splitting yields. -/
theorem fields_eq_splitOnP (separates : Char → Bool) (text : List Char) :
    fields separates text = text.splitOnP separates := by
  induction text with
  | nil => exact List.splitOnP_nil.symm
  | cons c rest inductionHypothesis =>
    rw [fields, List.splitOnP_cons_eq_if_modifyHead, inductionHypothesis]
    refine if_congr Iff.rfl rfl ?_
    cases split : rest.splitOnP separates with
    | nil => exact absurd split (List.splitOnP_ne_nil separates rest)
    | cons field more => rfl

theorem words_append_cons {c : Char} (mark : separates c = true) (text rest : List Char) :
    words separates (text ++ c :: rest) = words separates text ++ words separates rest := by
  unfold words
  rw [fields_eq_splitOnP, List.splitOnP_append_cons text rest mark, List.filter_append,
    fields_eq_splitOnP, fields_eq_splitOnP]

/-- Whether a text is a word: it holds something, and nothing that separates. -/
def IsWord (separates : Char → Bool) (text : List Char) : Prop :=
  text ≠ [] ∧ ∀ c ∈ text, separates c = false

theorem IsWord.words_eq {text : List Char} (word : IsWord separates text) :
    words separates text = [text] := by
  obtain ⟨filled, whole⟩ := word
  unfold words
  rw [fields_eq_splitOnP, List.splitOnP_eq_singleton whole]
  exact List.filter_cons_of_pos (by simp [filled])

/-- Words with a mark between each two are read as these words. -/
theorem words_intercalate {mark : Char} (marks : separates mark = true) {names : List (List Char)}
    (wordy : ∀ name ∈ names, IsWord separates name) :
    words separates ([mark].intercalate names) = names := by
  induction names with
  | nil => rfl
  | cons name more inductionHypothesis =>
    obtain ⟨word, others⟩ := List.forall_mem_cons.mp wordy
    cases more with
    | nil => rw [List.intercalate_singleton, word.words_eq]
    | cons next later =>
      rw [List.intercalate_cons_cons, List.append_assoc, List.singleton_append,
        words_append_cons marks, word.words_eq, inductionHypothesis others, List.singleton_append]

theorem not_separates_of_mem_fields {text field : List Char}
    (member : field ∈ fields separates text) {c : Char} (there : c ∈ field) :
    separates c = false := by
  induction text generalizing field with
  | nil =>
    obtain rfl := List.mem_singleton.mp member
    cases there
  | cons first rest inductionHypothesis =>
    rw [fields] at member
    split at member
    · rcases List.mem_cons.mp member with rfl | member
      · cases there
      · exact inductionHypothesis member there
    · rename_i letter
      split at member
      · obtain rfl := List.mem_singleton.mp member
        obtain rfl := List.mem_singleton.mp there
        exact Bool.not_eq_true _ ▸ letter
      · rename_i field' more split
        rw [split] at inductionHypothesis
        rcases List.mem_cons.mp member with rfl | member
        · rcases List.mem_cons.mp there with rfl | there
          · exact Bool.not_eq_true _ ▸ letter
          · exact inductionHypothesis List.mem_cons_self there
        · exact inductionHypothesis (List.mem_cons_of_mem _ member) there

theorem isWord_of_mem_words {text word : List Char} (member : word ∈ words separates text) :
    IsWord separates word := by
  obtain ⟨field, filled⟩ := List.mem_filter.mp member
  refine ⟨?_, fun c => not_separates_of_mem_fields field⟩
  rintro rfl
  cases filled

end Text

/-! ### Classes that come back -/

namespace Page.Classes

variable {classes : Classes}

/-- Whether a class can be written down: it is a word. -/
def IsName (name : String) : Prop := Text.IsWord isSeparator name.toList

/-- Classes that come back from the text that lists them. -/
structure IsPlain (classes : Classes) : Prop where
  names : ∀ name ∈ classes, IsName name
  distinct : classes.Nodup

-- The characters of the name are tried, not all characters there are.
instance (name : String) : Decidable (IsName name) :=
  @instDecidableAnd _ _ inferInstance (List.decidableBAll _ name.toList)

theorem isName_controlClass (shown : ControlClass) : IsName shown.name := by
  cases shown <;> decide

theorem isName_transition : IsName transition := by decide

theorem IsPlain.add (plain : IsPlain classes) {name : String} (isName : IsName name) :
    IsPlain (classes.add name) := by
  refine ⟨fun other member => ?_, ?_⟩
  · rcases (mem_add classes name other).mp member with there | rfl
    · exact plain.names other there
    · exact isName
  · unfold Classes.add
    split
    · exact plain.distinct
    · rename_i absent
      rw [List.contains_iff_mem] at absent
      refine List.nodup_append.mpr ⟨plain.distinct, List.pairwise_singleton _ _, ?_⟩
      intro other there this member same
      exact absent (List.mem_singleton.mp member ▸ same ▸ there)

theorem IsPlain.remove (plain : IsPlain classes) (name : String) : IsPlain (classes.remove name) :=
  ⟨fun other member => plain.names other ((mem_remove classes name other).mp member).1,
    plain.distinct.filter _⟩

theorem IsPlain.startSwap? (plain : IsPlain classes) {before : ControlClass} {started : Classes}
    (starts : classes.startSwap? before = some started) : IsPlain started := by
  unfold Classes.startSwap? at starts
  split at starts
  · obtain rfl := Option.some.inj starts
    exact plain.add isName_transition
  · cases starts

theorem IsPlain.endSwap (plain : IsPlain classes) (before after : ControlClass) :
    IsPlain (classes.endSwap before after) :=
  ((plain.remove _).add (isName_controlClass after)).remove _

theorem isPlain_foldl_add (plain : IsPlain classes) {names : List String}
    (each : ∀ name ∈ names, IsName name) : IsPlain (names.foldl Classes.add classes) := by
  induction names generalizing classes with
  | nil => exact plain
  | cons name more inductionHypothesis =>
    obtain ⟨isName, others⟩ := List.forall_mem_cons.mp each
    exact inductionHypothesis (plain.add isName) others

/-- Classes that are read are plain. -/
theorem isPlain_ofText (text : String) : IsPlain (ofText text) := by
  refine isPlain_foldl_add ⟨fun _ member => absurd member List.not_mem_nil, List.nodup_nil⟩ ?_
  intro name member
  obtain ⟨word, there, rfl⟩ := List.mem_map.mp member
  unfold IsName
  rw [String.toList_ofList]
  exact Text.isWord_of_mem_words there

theorem foldl_add_of_nodup {names : List String} (distinct : (classes ++ names).Nodup) :
    names.foldl Classes.add classes = classes ++ names := by
  induction names generalizing classes with
  | nil => exact (List.append_nil classes).symm
  | cons name more inductionHypothesis =>
    have absent : name ∉ classes := fun there =>
      (List.nodup_append.mp distinct).2.2 name there name List.mem_cons_self rfl
    have added : classes.add name = classes ++ [name] :=
      if_neg fun there => absent (List.contains_iff_mem.mp there)
    rw [List.append_cons] at distinct
    rw [List.foldl_cons, added, inductionHypothesis distinct, ← List.append_cons]

/-- Plain classes are read from the text that lists them. -/
theorem IsPlain.ofText_text (plain : IsPlain classes) : ofText classes.text = classes := by
  have spaced : classes.text.toList = [' '].intercalate (classes.map String.toList) :=
    String.toList_intercalate
  have wordy : ∀ name ∈ classes.map String.toList, Text.IsWord isSeparator name := by
    intro name member
    obtain ⟨word, there, rfl⟩ := List.mem_map.mp member
    exact plain.names word there
  unfold ofText
  dsimp only
  rw [spaced, Text.words_intercalate (by decide) wordy, List.map_map]
  have back : classes.map (String.ofList ∘ String.toList) = classes := by
    simp [Function.comp_def]
  rw [back]
  exact foldl_add_of_nodup plain.distinct

end Page.Classes

/-! ### Elements -/

namespace Page.Element

variable {element : Element}

theorem attribute?_setAttribute (element : Element) (name value other : String) :
    (element.setAttribute name value).attribute? other =
      if other = name then some value else element.attribute? other :=
  Keyed.lookup_put element.attributes name value other

theorem attribute?_removeAttribute (element : Element) (name other : String) :
    (element.removeAttribute name).attribute? other =
      if other = name then none else element.attribute? other := by
  unfold attribute? removeAttribute
  induction element.attributes with
  | nil => split <;> rfl
  | cons entry more inductionHypothesis =>
    obtain ⟨key, value⟩ := entry
    rw [List.filter_cons, List.lookup_cons]
    by_cases gone : key = name
    · subst gone
      rw [if_neg (by simp), inductionHypothesis]
      by_cases same : other = key
      · rw [if_pos same, if_pos same]
      · rw [if_neg same, if_neg same, beq_false_of_ne same]
    · rw [if_pos (bne_iff_ne.mpr gone), List.lookup_cons, inductionHypothesis]
      by_cases same : other = key
      · have kept : other ≠ name := fun here => gone (same.symm.trans here)
        rw [beq_iff_eq.mpr same, if_neg kept, if_neg kept]
      · rw [beq_false_of_ne same]

/-- The classes of an element are plain. -/
theorem isPlain_classes (element : Element) : element.classes.IsPlain := Classes.isPlain_ofText _

theorem classes_congr {left right : Element}
    (same : left.attribute? "class" = right.attribute? "class") : left.classes = right.classes := by
  unfold classes
  rw [same]

/-- Plain classes that an element is given are its classes then. -/
theorem classes_setClasses (element : Element) {classes : Classes} (plain : classes.IsPlain) :
    (element.setClasses classes).classes = classes := by
  unfold setClasses
  split
  · rename_i nothing
    obtain ⟨empty, missing⟩ := nothing
    unfold Element.classes
    rw [Option.isNone_iff_eq_none.mp missing, List.isEmpty_iff.mp empty]
    rfl
  · unfold Element.classes
    rw [attribute?_setAttribute, if_pos rfl]
    exact plain.ofText_text

theorem classes_setAttribute (element : Element) {name : String} (other : name ≠ "class")
    (value : String) : (element.setAttribute name value).classes = element.classes :=
  classes_congr (by rw [attribute?_setAttribute, if_neg other.symm])

theorem classes_setOpen (element : Element) (isOpen : Bool) :
    (element.setOpen isOpen).classes = element.classes := by
  unfold setOpen
  split
  · exact element.classes_setAttribute (by decide) ""
  · exact classes_congr (by rw [attribute?_removeAttribute, if_neg (by decide)])

theorem isOpen_setOpen (element : Element) (isOpen : Bool) :
    (element.setOpen isOpen).isOpen = isOpen := by
  unfold setOpen Element.isOpen
  cases isOpen with
  | true => rw [if_pos rfl, attribute?_setAttribute, if_pos rfl, Option.isSome_some]
  | false =>
    rw [if_neg Bool.false_ne_true, attribute?_removeAttribute, if_pos rfl, Option.isSome_none]

theorem isOpen_setAttribute (element : Element) {name : String} (other : name ≠ "open")
    (value : String) : (element.setAttribute name value).isOpen = element.isOpen := by
  unfold isOpen
  rw [attribute?_setAttribute, if_neg other.symm]

theorem isOpen_setClasses (element : Element) (classes : Classes) :
    (element.setClasses classes).isOpen = element.isOpen := by
  unfold setClasses
  split
  · rfl
  · exact element.isOpen_setAttribute (by decide) _

theorem isOpen_switchClass (element : Element) (name : String) (isOn : Bool) :
    (element.switchClass name isOn).isOpen = element.isOpen := by
  unfold switchClass
  split
  · rfl
  · split
    · exact element.isOpen_setClasses _
    · exact element.isOpen_setClasses _

end Page.Element

end ReleasePlayer
