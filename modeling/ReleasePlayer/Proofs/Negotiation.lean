/-
This file proves in which order a negotiation asks and tries. The probe is wrapped in one that keeps a
record of every contact with the runtime, and nothing else about the negotiation changes by that. The
record falls into one piece for each format that was considered, in the order of the formats: a query,
and then a trial if the answer leaves room for one and the clip has an address. Only the last contact
can be a trial that succeeded, and it decides; without one every format is considered.
-/

import ReleasePlayer.Negotiation

namespace ReleasePlayer

/-! ### The record of a negotiation -/

/-- One contact with a runtime, and what came of it. -/
inductive Contact where
  | query (mime : String) (support : CodecSupport)
  | trial (format : StreamFormat) (url : String) (outcome : Except PlaybackError Unit)

namespace Contact

/-- Whether a contact is a trial that succeeded. -/
def isSuccess : Contact → Bool
  | .trial _ _ (.ok ()) => true
  | _ => false

@[simp]
theorem isSuccess_query (mime : String) (support : CodecSupport) :
    (query mime support).isSuccess = false := rfl

@[simp]
theorem isSuccess_error (format : StreamFormat) (url : String) (error : PlaybackError) :
    (trial format url (.error error)).isSuccess = false := rfl

end Contact

/-- A probe that also keeps a record of its contacts with the runtime. -/
def Probe.recording {P : Type} (probe : Probe P) : Probe (P × List Contact) where
  query := fun (runtime, record) mime =>
    let (support, runtime) := probe.query runtime mime
    (support, runtime, record ++ [.query mime support])
  trial := fun (runtime, record) format url =>
    let (outcome, runtime) := probe.trial runtime format url
    (outcome, runtime, record ++ [.trial format url outcome])

/-! ### What is done about one format -/

/-- The contacts that come of considering a format: it is tried just if its media type is not ruled
out and its clip has an address, and then after the query. -/
inductive Considered (address : String → Except PlaybackError String) (format : StreamFormat) :
    List Contact → Prop where
  | ruledOut {support : CodecSupport} (impossible : support.isPossible = false) :
      Considered address format [.query format.mime support]
  | unaddressed {support : CodecSupport} (possible : support.isPossible = true)
      {error : PlaybackError} (noAddress : address format.name = .error error) :
      Considered address format [.query format.mime support]
  | tried {support : CodecSupport} (possible : support.isPossible = true) {url : String}
      (addressed : address format.name = .ok url) (outcome : Except PlaybackError Unit) :
      Considered address format [.query format.mime support, .trial format url outcome]

/-- A negotiation over formats, by its record and what it selects: formats without a successful trial
are passed over, and the first with one ends it. -/
inductive Negotiated (address : String → Except PlaybackError String) :
    List StreamFormat → List Contact → Option StreamFormat → Prop where
  | exhausted : Negotiated address [] [] none
  | passed {format : StreamFormat} {more : List StreamFormat} {contacts record : List Contact}
      {selected : Option StreamFormat} (considered : Considered address format contacts)
      (failed : ∀ contact ∈ contacts, contact.isSuccess = false)
      (later : Negotiated address more record selected) :
      Negotiated address (format :: more) (contacts ++ record) selected
  | succeeded {format : StreamFormat} {support : CodecSupport} {url : String}
      (considered : Considered address format
        [.query format.mime support, .trial format url (.ok ())])
      (more : List StreamFormat) :
      Negotiated address (format :: more)
        [.query format.mime support, .trial format url (.ok ())] (some format)

namespace Negotiated

variable {address : String → Except PlaybackError String} {formats : List StreamFormat}
  {record : List Contact} {selected : Option StreamFormat}

/-- Nothing is selected only if no trial succeeded. -/
theorem isSuccess_of_none (negotiated : Negotiated address formats record selected)
    (none : selected = none) : ∀ contact ∈ record, contact.isSuccess = false := by
  induction negotiated with
  | exhausted => nofun
  | passed considered failed later inductionHypothesis =>
    rw [List.forall_mem_append]
    exact ⟨failed, inductionHypothesis none⟩
  | succeeded considered more => cases none

/-- A format is selected only by a trial that succeeded, the first one and the last contact. -/
theorem record_of_some (negotiated : Negotiated address formats record selected)
    {format : StreamFormat} (some : selected = some format) :
    ∃ before url, record = before ++ [.trial format url (.ok ())] ∧
      ∀ contact ∈ before, contact.isSuccess = false := by
  induction negotiated with
  | exhausted => cases some
  | passed considered failed later inductionHypothesis =>
    obtain ⟨before, url, rfl, silent⟩ := inductionHypothesis some
    refine ⟨_ ++ before, url, (List.append_assoc _ _ _).symm, ?_⟩
    rw [List.forall_mem_append]
    exact ⟨failed, silent⟩
  | @succeeded chosen support url considered more =>
    obtain rfl := Option.some.inj some
    exact ⟨[.query chosen.mime support], url, rfl, by simp⟩

theorem eq_some_iff (negotiated : Negotiated address formats record selected)
    (format : StreamFormat) : selected = some format ↔
      ∃ before url, record = before ++ [.trial format url (.ok ())] ∧
        ∀ contact ∈ before, contact.isSuccess = false := by
  refine ⟨negotiated.record_of_some, ?_⟩
  rintro ⟨before, url, ended, -⟩
  cases chosen : selected with
  | none =>
    have last : Contact.trial format url (.ok ()) ∈ record := by rw [ended]; simp
    have failed := negotiated.isSuccess_of_none chosen _ last
    cases failed
  | some other =>
    obtain ⟨before', url', ended', -⟩ := negotiated.record_of_some chosen
    obtain ⟨-, same⟩ := List.append_inj' (ended'.symm.trans ended) rfl
    obtain ⟨rfl, -⟩ := Contact.trial.inj (List.singleton_inj.mp same)
    rfl

theorem isSome_iff (negotiated : Negotiated address formats record selected) :
    selected.isSome = true ↔ ∃ contact ∈ record, contact.isSuccess = true := by
  constructor
  · intro some
    obtain ⟨format, chosen⟩ := Option.isSome_iff_exists.mp some
    obtain ⟨before, url, rfl, -⟩ := negotiated.record_of_some chosen
    exact ⟨_, List.mem_append_right _ (List.mem_singleton_self _), rfl⟩
  · rintro ⟨contact, member, success⟩
    cases chosen : selected with
    | some format => rfl
    | none =>
      have failed := negotiated.isSuccess_of_none chosen contact member
      rw [success] at failed
      cases failed

/-- The record falls into one piece for each format considered, in the order of the formats, and
without a selection they are all considered. -/
theorem exists_pieces (negotiated : Negotiated address formats record selected) :
    ∃ pieces : List (StreamFormat × List Contact),
      pieces.map Prod.fst <+: formats ∧ record = pieces.flatMap Prod.snd ∧
        (∀ piece ∈ pieces, Considered address piece.1 piece.2) ∧
        (selected = none → pieces.map Prod.fst = formats) := by
  induction negotiated with
  | exhausted => exact ⟨[], List.prefix_refl [], rfl, nofun, fun _ => rfl⟩
  | @passed format more contacts record selected considered failed later inductionHypothesis =>
    obtain ⟨pieces, inOrder, rfl, each, all⟩ := inductionHypothesis
    refine ⟨(format, contacts) :: pieces, ?_, rfl, List.forall_mem_cons.mpr ⟨considered, each⟩, ?_⟩
    · exact (List.prefix_cons_inj format).mpr inOrder
    · intro none
      exact congrArg (format :: ·) (all none)
  | @succeeded format support url considered more =>
    refine ⟨[(format, [.query format.mime support, .trial format url (.ok ())])], ?_, rfl, ?_,
      nofun⟩
    · exact ⟨more, rfl⟩
    · exact List.forall_mem_singleton.mpr considered

end Negotiated

namespace Negotiation

variable {P : Type}

/-- A negotiation with a record tallies with one without: they end alike, and what was added to the
record is what a negotiation over the formats comes to. -/
structure Tallies (address : String → Except PlaybackError String) (formats : List StreamFormat)
    (earlier : List Contact) (recorded : Negotiation (P × List Contact))
    (plain : Negotiation P) : Prop where
  selected : recorded.selected = plain.selected
  log : recorded.log = plain.log
  runtime : recorded.runtime.1 = plain.runtime
  record : ∃ record, recorded.runtime.2 = earlier ++ record ∧
    Negotiated address formats record recorded.selected

variable {address : String → Except PlaybackError String}

/-- A format that is passed over puts its contacts in front. -/
theorem Tallies.pass {format : StreamFormat} {more : List StreamFormat}
    {earlier contacts : List Contact} {recorded : Negotiation (P × List Contact)}
    {plain : Negotiation P} (tallies : Tallies address more (earlier ++ contacts) recorded plain)
    (considered : Considered address format contacts)
    (failed : ∀ contact ∈ contacts, contact.isSuccess = false) (log : List Log.Entry) :
    Tallies address (format :: more) earlier (recorded.after log) (plain.after log) := by
  obtain ⟨selected, sameLog, runtime, record, kept, negotiated⟩ := tallies
  refine ⟨selected, congrArg (log ++ ·) sameLog, runtime, contacts ++ record, ?_, ?_⟩
  · rw [← List.append_assoc]
    exact kept
  · exact .passed considered failed negotiated

/-- Keeping a record changes nothing else about a negotiation. -/
theorem tallies_run (probe : Probe P) (total : Nat) (formats : List StreamFormat) (runtime : P)
    (earlier : List Contact) :
    Tallies address formats earlier (run probe.recording address total formats (runtime, earlier))
      (run probe address total formats runtime) := by
  induction formats generalizing runtime earlier with
  | nil => exact ⟨rfl, rfl, rfl, [], (List.append_nil earlier).symm, .exhausted⟩
  | cons format more inductionHypothesis =>
    obtain ⟨⟨support, asked⟩, queried⟩ : ∃ answer, probe.query runtime format.mime = answer :=
      ⟨_, rfl⟩
    have noted : probe.recording.query (runtime, earlier) format.mime =
        (support, asked, earlier ++ [.query format.mime support]) := by
      simp only [Probe.recording, queried]
    rw [run, run, queried, noted]
    dsimp only
    cases possible : support.isPossible with
    | false => exact (inductionHypothesis asked _).pass (.ruledOut possible) (by simp) _
    | true =>
      rw [if_neg (by decide), if_neg (by decide)]
      cases addressed : address format.name with
      | error error =>
        exact (inductionHypothesis asked _).pass (.unaddressed possible addressed) (by simp) _
      | ok url =>
        obtain ⟨⟨outcome, tried⟩, trial⟩ : ∃ answer, probe.trial asked format url = answer :=
          ⟨_, rfl⟩
        have recorded : probe.recording.trial (asked, earlier ++ [.query format.mime support])
            format url = (outcome, tried, earlier ++
              [.query format.mime support, .trial format url outcome]) := by
          simp only [Probe.recording, trial, List.append_assoc, List.cons_append, List.nil_append]
        have considered := Considered.tried possible addressed outcome
        simp only [trial, recorded]
        cases outcome with
        | ok done => exact ⟨rfl, rfl, rfl, _, rfl, .succeeded considered more⟩
        | error error => exact (inductionHypothesis tried _).pass considered (by simp) _

/-- Formats are queried in their order, each place once at most, and each is tried right after its
query just if the answer leaves room for it and the clip has an address. A trial that succeeds is the
last contact and selects its format; without one all formats are queried and none is selected. -/
theorem select_tries_in_order (probe : Probe P) (endpoint : Endpoint) (clip : TrialClip)
    (first : String) (formats : List StreamFormat) (runtime : P) :
    let plain := select probe endpoint clip first formats runtime
    let recorded := select probe.recording endpoint clip first formats (runtime, [])
    let record := recorded.runtime.2
    recorded.selected = plain.selected ∧ recorded.runtime.1 = plain.runtime ∧
      (plain.selected.isSome = true ↔ ∃ contact ∈ record, contact.isSuccess = true) ∧
      (∀ format, plain.selected = some format ↔
        ∃ before url, record = before ++ [.trial format url (.ok ())] ∧
          ∀ contact ∈ before, contact.isSuccess = false) ∧
      ∃ pieces : List (StreamFormat × List Contact),
        pieces.map Prod.fst <+: formats ∧ record = pieces.flatMap Prod.snd ∧
          (∀ piece ∈ pieces, Considered (endpoint.trialAddress clip first) piece.1 piece.2) ∧
          (plain.selected = none ↔ pieces.map Prod.fst = formats ∧
            ∀ contact ∈ record, contact.isSuccess = false) := by
  intro plain recorded record
  obtain ⟨selected, -, same, made, kept, negotiated⟩ :=
    @tallies_run P (endpoint.trialAddress clip first) probe formats.length formats runtime []
  rw [List.nil_append] at kept
  rw [← kept, selected] at negotiated
  obtain ⟨pieces, inOrder, cut, each, all⟩ := negotiated.exists_pieces
  refine ⟨selected, same, negotiated.isSome_iff, negotiated.eq_some_iff,
    pieces, inOrder, cut, each, fun none => ⟨all none, negotiated.isSuccess_of_none none⟩, ?_⟩
  rintro ⟨-, failed⟩
  refine Option.not_isSome_iff_eq_none.mp fun some => ?_
  obtain ⟨contact, member, success⟩ := negotiated.isSome_iff.mp some
  rw [failed contact member] at success
  cases success

/-- A negotiation keeps of the runtime what its probe keeps. -/
theorem run_keeps (Holds : P → Prop) {probe : Probe P}
    (query : ∀ runtime mime, Holds runtime → Holds (probe.query runtime mime).2)
    (trial : ∀ runtime format url, Holds runtime → Holds (probe.trial runtime format url).2)
    (total : Nat) (formats : List StreamFormat) {runtime : P} (holds : Holds runtime) :
    Holds (run probe address total formats runtime).runtime := by
  induction formats generalizing runtime with
  | nil => exact holds
  | cons format more inductionHypothesis =>
    have asked := query runtime format.mime holds
    unfold run
    dsimp only
    split
    · exact inductionHypothesis asked
    · split
      · exact inductionHypothesis asked
      · rename_i url _
        have tried := trial _ format url asked
        split
        · exact tried
        · exact inductionHypothesis tried

end Negotiation

end ReleasePlayer
