/-
This file puts a player on a page and says what page that makes: swaps end in order, everything that was
queued is shown, and the listeners are those of the parts that were found in the document. So what is
proved of buttons and panels on a page is true of it, as long as no part stands for two things.
-/

import ReleasePlayer.Page.Mount
import ReleasePlayer.Proofs.Negotiation
import ReleasePlayer.Proofs.Page.Notices

namespace ReleasePlayer.Page

/-! ### Pages with a player on them -/

/-- A player with given parts was put on a page. -/
structure SetUp (widget : Widget) (page : Page) : Prop where
  settled : page.Settled
  found : ∃ document, Widget.find? document = some widget
  widget_eq : page.widget = some widget
  listeners_eq : page.listeners = audioListeners ++ windowListeners ++ widgetListeners widget

/-! ### Rules for stages of mounting -/

namespace Mounting

variable {β γ : Type} {Before : Page → Prop} {Middle : β → Page → Prop} {After : γ → Page → Prop}

/-- Once a stage is done that started on a page of one kind, something holds of what it gives and of the
page that it leaves. -/
def Leads (Before : Page → Prop) (stage : Mounting β) (After : β → Page → Prop) : Prop :=
  ∀ page value later, Before page → stage.run page = (.ok value, later) → After value later

theorem leads_pure {value : β} (holds : ∀ page, Before page → Middle value page) :
    Leads Before (pure value) Middle := by
  rintro page value later before ⟨⟩
  exact holds page before

theorem leads_throw (error : MountError) : Leads Before (throw error : Mounting β) Middle := by
  rintro page value later before ⟨⟩

theorem leads_of_get {next : Page → Mounting γ}
    (first : ∀ page, Before page → Leads (fun later => later = page) (next page) After) :
    Leads Before (get >>= next) After := fun page value later before ran =>
  first page before page value later rfl ran

theorem leads_modify (Holds : Page → Prop) {change : Page → Page}
    (holds : ∀ page, Before page → Holds (change page)) :
    Leads Before (modify change) fun _ => Holds := by
  rintro page value later before ⟨⟩
  exact holds page before

theorem leads_set (Holds : Page → Prop) {page : Page} (holds : Holds page) :
    Leads Before (set page) fun _ => Holds := by
  rintro other value later before ⟨⟩
  exact holds

theorem run_bind (stage : Mounting β) (next : β → Mounting γ) (page : Page) :
    (stage >>= next).run page =
      ExceptT.bindCont next (stage.run page).1 (stage.run page).2 := rfl

theorem Leads.bind {stage : Mounting β} {next : β → Mounting γ} (first : Leads Before stage Middle)
    (second : ∀ value, Leads (Middle value) (next value) After) :
    Leads Before (stage >>= next) After := by
  intro page last later before ran
  rw [run_bind] at ran
  rcases stop : stage.run page with ⟨error | value, middle⟩
  · rw [stop] at ran
    cases ran
  · rw [stop] at ran
    exact second value middle last later (first page value middle before stop) ran

theorem leads_throw_bind (error : MountError) (next : β → Mounting γ) :
    Leads Before (throw error >>= next) After := by
  rintro page value later before ⟨⟩

theorem leads_of_imp (Weaker : Page → Prop) {stage : Mounting β}
    (weaker : ∀ page, Before page → Weaker page) (leads : Leads Weaker stage Middle) :
    Leads Before stage Middle :=
  fun page value later before => leads page value later (weaker page before)

/-- A stage that holds up what held before it. -/
abbrev Keeps (Holds : Page → Prop) (stage : Mounting β) : Prop := Leads Holds stage fun _ => Holds

theorem keeps_forM {Holds : Page → Prop} {stage : β → Mounting Unit}
    (kept : ∀ value, Keeps Holds (stage value)) (values : List β) :
    Keeps Holds (values.forM stage) := by
  induction values with
  | nil => exact leads_pure fun _ holds => holds
  | cons value more inductionHypothesis =>
    exact (kept value).bind fun _ => inductionHypothesis

theorem leads_failWith (message : String) :
    Leads Before (failWith message : Mounting β) Middle :=
  Leads.bind (leads_modify (fun _ => True) fun _ _ => trivial) fun _ => leads_throw _

/-! ### What each stage keeps -/

/-- A settled page with given parts of the player. -/
structure Furnished (parts : Option Widget) (page : Page) : Prop where
  settled : page.Settled
  widget_eq : page.widget = parts

variable {parts : Option Widget}

theorem Furnished.of_same {page later : Page} (furnished : Furnished parts page)
    (swaps : later.swaps = page.swaps) (clock : later.clock = page.clock)
    (queued : later.player.map Player.effects = page.player.map Player.effects)
    (widget : later.widget = page.widget) : Furnished parts later :=
  ⟨furnished.settled.of_same swaps clock queued, widget.trans furnished.widget_eq⟩

theorem Furnished.settle {page : Page} (furnished : Furnished parts page) (player : PagePlayer) :
    Furnished parts (page.settle player) :=
  ⟨settled_settle furnished.settled.timely player, furnished.widget_eq⟩

theorem Furnished.tell {page : Page} (furnished : Furnished parts page) (log : List Log.Entry) :
    Furnished parts (page.tell log) :=
  furnished.of_same rfl rfl rfl rfl

theorem Furnished.dispatch {page : Page} (furnished : Furnished parts page)
    (handle : PagePlayer → PagePlayer) : Furnished parts (page.dispatch handle) := by
  unfold Page.dispatch
  split
  · exact furnished.settle _
  · exact furnished

theorem Furnished.attempt {page : Page} (furnished : Furnished parts page)
    (level : String → Log.Entry) (handle : PagePlayer → Except PlaybackError PagePlayer) :
    Furnished parts (page.attempt level handle).1 := by
  unfold Page.attempt
  split
  · exact furnished
  · split
    · exact furnished.settle _
    · exact furnished.tell _

theorem keeps_createAudio : Keeps (Furnished parts) createAudio := by
  refine leads_of_get fun page furnished => ?_
  split
  · refine Leads.bind (leads_set (Furnished parts) ?_) fun _ => leads_pure fun _ holds => holds
    exact furnished.of_same rfl rfl rfl rfl
  · exact leads_throw _

theorem keeps_readSettings (attributes : List (String × String)) :
    Keeps (Furnished parts) (readSettings attributes) := by
  unfold readSettings
  split
  · exact leads_pure fun _ holds => holds
  · exact leads_failWith _

theorem keeps_markBody : Keeps (Furnished parts) markBody :=
  leads_modify _ fun _ furnished => furnished.of_same rfl rfl rfl rfl

theorem keeps_createPlayer (config : Config Float) :
    Keeps (Furnished parts) (createPlayer config) := by
  refine Leads.bind keeps_createAudio fun audio => leads_of_get fun page furnished => ?_
  refine Leads.bind (leads_set (Furnished parts) ?_) fun _ => ?_
  · exact furnished.of_same rfl rfl rfl rfl
  · split
    · refine Leads.bind (leads_modify _ fun page furnished => furnished.settle _) fun _ => ?_
      exact leads_pure fun _ holds => holds
    · exact leads_failWith _

/-- The parts that are found are those of some document. -/
theorem leads_findWidget : Leads (Furnished parts) findWidget fun widget page =>
    (∃ document, Widget.find? document = some widget) ∧ Furnished (some widget) page := by
  refine leads_of_get fun page furnished => ?_
  split
  · rename_i widget found
    refine Leads.bind (leads_modify (Furnished (some widget)) ?_) fun _ =>
      leads_pure fun _ furnished => ⟨⟨_, found⟩, furnished⟩
    rintro later rfl
    exact ⟨furnished.settled.of_same rfl rfl rfl, rfl⟩
  · exact leads_throw _

theorem keeps_registerPanel (panel : String × Bool) :
    Keeps (Furnished parts) (registerPanel panel) :=
  leads_modify _ fun _ furnished => furnished.attempt _ _

theorem furnished_tryClip {page : Page} (furnished : Furnished parts page) (format : StreamFormat)
    (url : String) : Furnished parts (tryClip page format url).2 := by
  unfold tryClip
  split
  · exact furnished.of_same rfl rfl rfl rfl
  · exact furnished

theorem keeps_pickFormat (config : Config Float) (endpoint : Endpoint) (first : String) :
    Keeps (Furnished parts) (pickFormat config endpoint first) := by
  refine Leads.bind keeps_createAudio fun audio => leads_of_get fun page furnished => ?_
  have negotiated : Furnished parts
      (Negotiation.select probe endpoint config.trialClip first config.formats page).runtime :=
    Negotiation.run_keeps (Furnished parts) (fun _ _ holds => holds)
      (fun _ format url holds => furnished_tryClip holds format url) _ _ furnished
  exact (leads_set _ (negotiated.tell _)).bind fun _ => leads_pure fun _ holds => holds

theorem keeps_attach (format : Option StreamFormat) (endpoint : Endpoint) :
    Keeps (Furnished parts) (attach format endpoint) := by
  refine leads_of_get fun page furnished => ?_
  have tried := furnished.attempt Log.error fun player => player.attachSource format endpoint
  split
  · rename_i later stop
    rw [stop] at tried
    exact leads_set _ tried
  · rename_i later error stop
    exact (leads_set (fun _ => True) trivial).bind fun _ => leads_throw _

/-- Mounting that comes to its end leaves a page with a player on it. -/
theorem leads_mounting (parts : Option Widget) (attributes : List (String × String)) :
    Leads (Furnished parts) (mounting attributes) fun _ page => ∃ widget, SetUp widget page := by
  refine (keeps_readSettings attributes).bind fun config => leads_of_get fun page furnished => ?_
  dsimp only
  split
  · exact leads_throw_bind _ _
  split
  · exact leads_throw_bind _ _
  refine leads_of_imp (Furnished parts) (fun _ same => same ▸ furnished) ?_
  refine keeps_markBody.bind fun _ => (keeps_createPlayer config).bind fun player => ?_
  refine leads_findWidget.bind fun widget => leads_of_get fun page ⟨found, furnished⟩ => ?_
  -- From here on the page shows the parts that were found, whatever parts it had before.
  refine leads_of_imp (Furnished (some widget)) (fun _ same => same ▸ furnished) ?_
  refine (keeps_forM keeps_registerPanel _).bind fun _ => ?_
  refine (leads_modify _ fun page furnished => furnished.dispatch _).bind fun _ => ?_
  split
  · exact leads_failWith _
  · refine (keeps_pickFormat _ _ _).bind fun format => (keeps_attach _ _).bind fun _ => ?_
    refine leads_modify _ fun page furnished => ⟨widget, ?_, found, furnished.widget_eq, rfl⟩
    exact furnished.settled.of_same rfl rfl rfl

end Mounting

variable {page later : Page}

/-- Mounting that ends without an error sets a player up. -/
theorem exists_setUp (settled : page.Settled) {attributes : List (String × String)}
    (done : page.mount attributes = (later, none)) : ∃ widget, SetUp widget later := by
  unfold mount at done
  split at done
  · rename_i ran
    cases done
    exact Mounting.leads_mounting page.widget attributes page () later ⟨settled, rfl⟩ ran
  · cases done

/-- A page without a player is settled. -/
theorem settled_start (environment : Environment) (content : List Markup)
    (entries : List (String × String)) : (start environment content entries).Settled :=
  ⟨⟨List.Pairwise.nil, fun _ member => absurd member List.not_mem_nil⟩, fun _ none => nomatch none⟩

/-! ### Listeners -/

variable {widget : Widget} {control : Control} {slug : String} {id : Nat}

theorem filter_listenAt_of_ne {part : Option Nat} {event : String} (other : event ≠ "toggle")
    (reaction : Nat → Reaction) (id : Nat) :
    ((listenAt part event reaction).filter fun listener =>
      listener.place = .element id ∧ listener.event = "toggle") = [] := by
  cases part with
  | none => rfl
  | some place => exact List.filter_eq_nil_iff.mpr (by simp [listenAt, other])

theorem filter_rowListeners (slug : String) (row : Row) (id : Nat) :
    ((rowListeners slug row).filter fun listener =>
        listener.place = .element id ∧ listener.event = "toggle") =
      if row.lyrics = some id then [lyricsListener slug id] else [] := by
  unfold rowListeners
  rw [List.filter_append, filter_listenAt_of_ne (by decide), List.nil_append]
  cases lyrics : row.lyrics with
  | none => rfl
  | some place =>
    by_cases same : place = id
    · subst same
      rw [if_pos rfl]
      simp [listenAt, lyricsListener]
    · have other : some place ≠ some id := mt Option.some.inj same
      rw [if_neg other]
      exact List.filter_eq_nil_iff.mpr (by simp [listenAt, same])

/-- Of two rows with one slug there is only the later one. -/
theorem Widget.nodup_findRows (document : Document) :
    ((findRows document).map Prod.fst).Nodup := by
  unfold findRows
  refine List.foldlRecOn _ _ (motive := fun rows : List (String × Row) => (rows.map Prod.fst).Nodup)
    List.nodup_nil fun rows unique id _ => ?_
  split
  · exact unique
  · exact Keyed.nodup_put unique _ _

theorem SetUp.nodup_rows (setUp : SetUp widget page) : (widget.rows.map Prod.fst).Nodup := by
  obtain ⟨document, found⟩ := setUp.found
  unfold Widget.find? at found
  obtain ⟨root, -, rest⟩ := Option.bind_eq_some_iff.mp found
  cases rest
  exact Widget.nodup_findRows document

/-- Of all that listens on a page with a player, only one listener hears of a panel. -/
theorem hears_widgetListeners (apart : widget.PanelsApart)
    (unique : (widget.rows.map Prod.fst).Nodup) (placed : widget.lyrics? slug = some id) :
    Hears (audioListeners ++ windowListeners ++ widgetListeners widget) slug id := by
  obtain ⟨row, found, lyrics⟩ := Option.bind_eq_some_iff.mp placed
  obtain ⟨before, after, rows, -⟩ := List.lookup_eq_some_iff.mp found
  have elsewhere : ∀ entry ∈ widget.rows, entry.1 ≠ slug → entry.2.lyrics ≠ some id := by
    rintro ⟨name, other⟩ member different panel
    refine different (apart slug name id placed ?_)
    unfold Widget.lyrics? Widget.row?
    rw [Keyed.lookup_of_mem unique member]
    exact panel
  have alone : ∀ entry ∈ before ++ after, entry.2.lyrics ≠ some id := by
    rw [rows, List.map_append, List.map_cons] at unique
    obtain ⟨-, later, earlier⟩ := List.nodup_append.mp unique
    intro entry member
    rcases List.mem_append.mp member with first | last
    · refine elsewhere entry (rows ▸ List.mem_append_left _ first) ?_
      exact earlier _ (List.mem_map_of_mem first) _ List.mem_cons_self
    · refine elsewhere entry (rows ▸ List.mem_append_right _ (List.mem_cons_of_mem _ last)) ?_
      have missing : slug ∉ after.map Prod.fst := (List.nodup_cons.mp later).1
      exact fun same => missing (same ▸ List.mem_map_of_mem last)
  have quiet (part : List (String × Row)) (within : ∀ entry ∈ part, entry.2.lyrics ≠ some id) :
      (part.flatMap fun entry => if entry.2.lyrics = some id then [lyricsListener entry.1 id]
        else []) = [] :=
    List.flatMap_eq_nil_iff.mpr fun entry member => if_neg (within entry member)
  unfold Hears widgetListeners
  simp (disch := decide) only [List.filter_append, filter_listenAt_of_ne, List.filter_flatMap,
    filter_rowListeners]
  rw [rows, List.flatMap_append, List.flatMap_cons, if_pos lyrics,
    quiet before fun entry member => alone entry (List.mem_append_left _ member),
    quiet after fun entry member => alone entry (List.mem_append_right _ member)]
  rfl

/-! ### What holds of them -/

/-- Whatever goes on from now on moves the element of a control as a button. -/
theorem SetUp.ready (setUp : SetUp widget page) (stands : widget.Stands control id) :
    page.Ready control id :=
  ⟨setUp.settled, widget, setUp.widget_eq, stands⟩

/-- The player is told of a panel whenever that opens or closes. -/
theorem SetUp.hears (setUp : SetUp widget page) (apart : widget.PanelsApart)
    (placed : widget.lyrics? slug = some id) : Hears page.listeners slug id := by
  rw [setUp.listeners_eq]
  exact hears_widgetListeners apart setUp.nodup_rows placed

/-- Whatever goes on after a player was put on a page that had none, the elements of its controls move as
buttons. -/
theorem exists_moved_of_mount {environment : Environment} {content : List Markup}
    {entries attributes : List (String × String)}
    (done : (start environment content entries).mount attributes = (later, none)) :
    ∃ widget, SetUp widget later ∧ ∀ control id, widget.Stands control id →
      ∀ happenings, ∃ effects, Moved control id later (later.meetAll happenings) effects := by
  obtain ⟨widget, setUp⟩ := exists_setUp (settled_start environment content entries) done
  exact ⟨widget, setUp, fun control id stands => (setUp.ready stands).moved_meetAll⟩

end ReleasePlayer.Page
