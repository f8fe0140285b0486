/-
This file proves that what is read before the query of a URL holds neither of the signs that start a
query and a fragment. In credentials and paths both signs are encoded; a host is made of digits and
colons, or else it is a name, and a name that holds either sign is refused. A text that is put together
from such parts falls apart into the same parts again.
-/

import ReleasePlayer.Proofs.Url.Encoding
import ReleasePlayer.Url.Reading

namespace ReleasePlayer

namespace Text

variable {sign : Char}

/-- A sign that is no digit is not among the digits of a number. -/
theorem not_mem_toDigits {base : Nat} (proper : 1 < base)
    (notDigit : ∀ digit < base, Nat.digitChar digit ≠ sign) (value : Nat) :
    sign ∉ Nat.toDigits base value := by
  induction value using Nat.strongRecOn with
  | ind value inductionHypothesis =>
    rw [Nat.toDigits_eq_if proper]
    split
    · rename_i small
      exact fun member => notDigit value small (List.mem_singleton.mp member).symm
    · rename_i large
      have smaller : value / base < value := Nat.div_lt_self (by omega) proper
      rw [List.mem_append, List.mem_singleton, not_or]
      exact ⟨inductionHypothesis _ smaller, (notDigit _ (Nat.mod_lt _ (by omega))).symm⟩

theorem not_mem_intercalate {between : List Char} {parts : List (List Char)}
    (notBetween : sign ∉ between) (notWithin : ∀ part ∈ parts, sign ∉ part) :
    sign ∉ between.intercalate parts := by
  induction parts with
  | nil => exact List.not_mem_nil
  | cons part more inductionHypothesis =>
    have inMore := inductionHypothesis fun other member =>
      notWithin other (List.mem_cons_of_mem part member)
    cases more with
    | nil =>
      rw [List.intercalate_singleton]
      exact notWithin part List.mem_cons_self
    | cons next rest =>
      rw [List.intercalate_cons_cons, List.mem_append, List.mem_append, not_or, not_or]
      exact ⟨⟨notWithin part List.mem_cons_self, notBetween⟩, inMore⟩

end Text

namespace Url

/-! ### Signs that end a path -/

/-- The signs that end a path: one starts the query, the other the fragment. -/
def IsMark (sign : Char) : Prop := sign = '?' ∨ sign = '#'

variable {sign : Char}

namespace IsMark

theorem digitChar_ne (mark : IsMark sign) : ∀ digit < 16, Nat.digitChar digit ≠ sign := by
  rcases mark with rfl | rfl <;> decide

theorem isOutside (mark : IsMark sign) : Percent.IsOutside sign := by
  rcases mark with rfl | rfl <;> decide

theorem inPath (mark : IsMark sign) : Percent.inPath sign = true := by
  rcases mark with rfl | rfl <;> decide

theorem inCredentials (mark : IsMark sign) : Percent.inCredentials sign = true := by
  rcases mark with rfl | rfl <;> decide

theorem isForbiddenInDomain (mark : IsMark sign) : isForbiddenInDomain sign = true := by
  rcases mark with rfl | rfl <;> decide

theorem not_mem_toDigits (mark : IsMark sign) {base : Nat} (proper : 1 < base) (small : base ≤ 16)
    (value : Nat) : sign ∉ Nat.toDigits base value :=
  Text.not_mem_toDigits proper
    (fun digit bound => mark.digitChar_ne digit (Nat.lt_of_lt_of_le bound small)) value

end IsMark

/-! ### Servers -/

theorem not_mem_address4Text (mark : IsMark sign) (address : Nat) : sign ∉ address4Text address := by
  refine Text.not_mem_intercalate (by rcases mark with rfl | rfl <;> decide) fun part member => ?_
  obtain ⟨place, -, rfl⟩ := List.mem_map.mp member
  exact mark.not_mem_toDigits (by decide) (by decide) _

theorem not_mem_groupsText (mark : IsMark sign) (groups : List Nat) : sign ∉ groupsText groups := by
  refine Text.not_mem_intercalate (by rcases mark with rfl | rfl <;> decide) fun part member => ?_
  obtain ⟨value, -, rfl⟩ := List.mem_map.mp member
  exact mark.not_mem_toDigits (by decide) (by decide) _

theorem not_mem_address6Text (mark : IsMark sign) (groups : List Nat) :
    sign ∉ address6Text groups := by
  have ne : sign ≠ '[' ∧ sign ≠ ']' ∧ sign ∉ [':', ':'] := by
    rcases mark with rfl | rfl <;> decide
  unfold address6Text
  dsimp only
  rw [List.mem_append, List.mem_cons, List.mem_singleton, not_or, not_or]
  refine ⟨⟨ne.1, ?_⟩, ne.2.1⟩
  split
  · exact not_mem_groupsText mark groups
  · rw [List.mem_append, List.mem_append, not_or, not_or]
    exact ⟨⟨not_mem_groupsText mark _, ne.2.2⟩, not_mem_groupsText mark _⟩

theorem not_mem_domain (mark : IsMark sign) {text host : List Char}
    (read : domain text = .ok host) : sign ∉ host := by
  unfold domain bracketed at read
  split at read
  · split at read
    · split at read
      · obtain rfl := Except.ok.inj read
        exact not_mem_address6Text mark _
      · cases read
    · cases read
  · split at read
    · cases read
    · dsimp only at read
      split at read
      · cases read
      · rename_i allowed
        split at read
        · cases read
        · split at read
          · split at read
            · obtain rfl := Except.ok.inj read
              exact not_mem_address4Text mark _
            · cases read
          · obtain rfl := Except.ok.inj read
            exact fun member => allowed (List.any_eq_true.mpr ⟨sign, member, mark.isForbiddenInDomain⟩)

/-- What is there behind a check came through the check. -/
theorem ok_of_check {refused : Prop} [Decidable refused] {Answer : Type} {fault : Fault}
    {outcome : Except Fault Answer} {answer : Answer}
    (passed : (if refused then .error fault else outcome) = .ok answer) : outcome = .ok answer := by
  split at passed
  · cases passed
  · exact passed

/-- What an authority is made of: encoded credentials, a host that was read, and perhaps a port. -/
theorem readAuthority_eq {scheme text behind : List Char} {isAtEnd : Bool} {authority : Authority}
    (special : isSpecial scheme = true)
    (read : readAuthority scheme text isAtEnd = .ok (authority, behind)) :
    ∃ username password hostText host port, domain hostText = .ok host ∧
      authority = ⟨Percent.encode Percent.inCredentials username,
        Percent.encode Percent.inCredentials password, host, port⟩ := by
  unfold readAuthority at read
  dsimp only at read
  simp only [special, bind, Except.bind, throw, throwThe, MonadExceptOf.throw, pure, Except.pure,
    if_true] at read
  replace read := ok_of_check (ok_of_check read)
  split at read
  · cases read
  · rename_i host ofHost
    replace read := ok_of_check read
    split at read
    · cases read
    · obtain ⟨rfl, -⟩ := Prod.mk.inj (Except.ok.inj read)
      exact ⟨_, _, _, host, _, ofHost, rfl⟩

theorem not_mem_authority (mark : IsMark sign) {scheme text behind : List Char} {isAtEnd : Bool}
    {authority : Authority} (special : isSpecial scheme = true)
    (read : readAuthority scheme text isAtEnd = .ok (authority, behind)) :
    sign ∉ authority.text := by
  obtain ⟨username, password, hostText, host, port, ofHost, rfl⟩ := readAuthority_eq special read
  have encoded (text : List Char) : sign ∉ Percent.encode Percent.inCredentials text :=
    Percent.not_mem_encode mark.isOutside mark.inCredentials text
  have ne : sign ∉ ['/', '/'] ∧ sign ≠ ':' ∧ sign ∉ ['@'] := by
    rcases mark with rfl | rfl <;> decide
  unfold Authority.text Authority.credentialsText
  simp only [List.mem_append, not_or]
  refine ⟨⟨⟨ne.1, ?_⟩, not_mem_domain mark ofHost⟩, ?_⟩
  · split
    · exact List.not_mem_nil
    · simp only [List.mem_append, not_or]
      refine ⟨⟨encoded username, ?_⟩, ne.2.2⟩
      split
      · exact List.not_mem_nil
      · exact List.not_mem_cons_of_ne_of_not_mem ne.2.1 (encoded password)
  · split
    · exact List.not_mem_cons_of_ne_of_not_mem ne.2.1 (mark.not_mem_toDigits (by decide) (by decide) _)
    · exact List.not_mem_nil

/-! ### Paths -/

/-- No segment of a path holds the sign. -/
def IsFree (sign : Char) (path : List (List Char)) : Prop := ∀ segment ∈ path, sign ∉ segment

theorem IsFree.append {sign : Char} {path more : List (List Char)} (free : IsFree sign path)
    (moreFree : IsFree sign more) : IsFree sign (path ++ more) :=
  fun segment member => (List.mem_append.mp member).elim (free segment) (moreFree segment)

theorem isFree_singleton {sign : Char} {segment : List Char} (free : sign ∉ segment) :
    IsFree sign [segment] :=
  fun _ member => List.mem_singleton.mp member ▸ free

theorem IsFree.addSegment {scheme segment : List Char} {path : List (List Char)}
    (notFile : isFile scheme = false) (free : IsFree sign path) (segmentFree : sign ∉ segment)
    (isLast : Bool) : IsFree sign (addSegment scheme path segment isLast) := by
  have ending : IsFree sign (if isLast then [[]] else []) := by
    split
    · exact isFree_singleton List.not_mem_nil
    · exact fun other member => absurd member List.not_mem_nil
  unfold Url.addSegment
  rw [notFile]
  split
  · refine IsFree.append (fun other member => free other ?_) ending
    unfold above at member
    split at member
    · exact member
    · exact (List.dropLast_sublist path).subset member
  · split
    · exact free.append ending
    · rw [if_neg fun both => Bool.false_ne_true both.1]
      exact free.append (isFree_singleton segmentFree)

theorem IsFree.addSegments {scheme : List Char} (notFile : isFile scheme = false)
    {segments : List (List Char)} (segmentsFree : IsFree sign segments) :
    ∀ {path : List (List Char)}, IsFree sign path →
      IsFree sign (addSegments scheme path segments) := by
  induction segments with
  | nil => exact fun free => free
  | cons segment more inductionHypothesis =>
    intro path free
    have segmentFree := segmentsFree segment List.mem_cons_self
    cases more with
    | nil => exact free.addSegment notFile segmentFree true
    | cons next rest =>
      exact inductionHypothesis (fun other member =>
        segmentsFree other (List.mem_cons_of_mem segment member))
        (free.addSegment notFile segmentFree false)

/-- A path that is read holds no mark. -/
theorem isFree_readPath (mark : IsMark sign) {scheme : List Char} (notFile : isFile scheme = false)
    (text : List Char) : IsFree sign (readPath scheme [] text) := by
  unfold readPath withoutLead
  rw [notFile, if_neg Bool.false_ne_true]
  refine IsFree.addSegments notFile (fun segment member => ?_) fun segment member =>
    absurd member List.not_mem_nil
  obtain ⟨field, -, rfl⟩ := List.mem_map.mp member
  exact Percent.not_mem_encode mark.isOutside mark.inPath field

theorem isFree_path_text {path : List (List Char)} (mark : IsMark sign) (free : IsFree sign path) :
    sign ∉ (Path.segments path).text := by
  intro member
  obtain ⟨segment, there, within⟩ := List.mem_flatMap.mp member
  rcases List.mem_cons.mp within with rfl | inSegment
  · rcases mark with same | same <;> exact absurd same (by decide)
  · exact free segment there inSegment

/-! ### Cutting -/

theorem cutAt_partText {before : List Char} (none : sign ∉ before) (part : Option (List Char)) :
    cutAt sign (before ++ partText sign part) = (before, part) := by
  unfold cutAt
  cases part with
  | none =>
    have all (c : Char) (member : c ∈ before) : (c != sign) = true :=
      bne_iff_ne.mpr fun same => none (same ▸ member)
    rw [partText, List.dropWhile_append_of_pos all, List.dropWhile_nil, List.append_nil]
  | some text => rw [partText, Text.dropWhile_ne_append none, Text.takeWhile_ne_append none]

/-- The text of a URL up to the mark that ends its path. -/
def headText (url : Url) : List Char :=
  url.scheme ++ [':'] ++ lead url.authority url.path ++ url.path.text

/-- A URL without marks in its parts is cut into them. -/
theorem cut_text {url : Url} (free : ∀ sign, IsMark sign → sign ∉ url.headText)
    (queryFree : '#' ∉ partText '?' url.query) :
    cut url.text = ⟨url.headText, url.query, url.fragment⟩ := by
  have noFragment : '#' ∉ url.headText ++ partText '?' url.query :=
    fun member => (List.mem_append.mp member).elim (free '#' (Or.inr rfl)) queryFree
  have outer : cutAt '#' url.text = (url.headText ++ partText '?' url.query, url.fragment) :=
    cutAt_partText noFragment url.fragment
  have inner : cutAt '?' (url.headText ++ partText '?' url.query) = (url.headText, url.query) :=
    cutAt_partText (free '?' (Or.inl rfl)) url.query
  unfold cut
  rw [outer]
  dsimp only
  rw [inner]

end Url

end ReleasePlayer
