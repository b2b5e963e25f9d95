import PageSync.Proofs.Page.Wiring
import PageSync.Proofs.Pass.Numeric
import PageSync.Proofs.Pass.Sidebar
import PageSync.Proofs.Session.Loading

/-!
Digit filters over whole sessions. Each pass and each action keeps tags and filters together, so
they are together in every state that a session reaches from a page without tags
(`wiredOnce_of_reachable`). What a pass wires and what an input event does to a field follows from
this alone (`reachable_wiring`).
-/

namespace PageSync

open Pass (boundAttribute)

/-! ### Passes -/

namespace Page.WiredOnce

open Pass

variable [Browser] {page : Page} (h : page.WiredOnce) (visit : Visit) (settings : Settings)

include h

/-- Marks and writes keep tags and filters. -/
theorem moves (word : String) (list : List Move) : (page.scene.moves word list).page.WiredOnce := by
  rw [Scene.page, Scene.attached_moves]
  apply h.update
  intro entry _ hentry
  exact (Element.wiredOnce_congr
    (Move.attribute?_marked Element.boundAttribute_ne_class word list entry.1 entry.2)
    (Move.filters_marked word list entry.1 entry.2)).mpr hentry

theorem highlightSidebar : (Pass.highlightSidebar visit settings page).state.WiredOnce := by
  rw [highlightSidebar_state]
  exact h.moves _ _

theorem activateTabs : (Pass.activateTabs visit settings page).state.WiredOnce := by
  rw [activateTabs_state]
  exact h.moves _ _

/-- The pass wires fields without a tag only. -/
theorem wireNumeric : (Pass.wireNumeric settings page).state.WiredOnce := by
  have hnodup := Scene.nodup_attached (Scene.nodup_numbers_scene page)
  rw [wireNumeric_state, Scene.page, attached_wireAll (nodup_unboundFields settings hnodup)]
  apply h.update
  intro entry hentry honce
  by_cases hfield : entry.1 ∈ unboundFields settings page.scene
  · rw [wireListed_of_mem hfield]
    exact honce.wired (isUnbound_of_mem_unboundFields hnodup hentry hfield)
  · rw [wireListed_of_not_mem hfield]
    exact honce

theorem visited : (Pass.visited visit settings page).1.WiredOnce :=
  ((h.highlightSidebar visit settings).activateTabs visit settings).wireNumeric settings

end Page.WiredOnce

namespace Session

/-! ### Actions -/

section

variable {session : Session} (h : session.page.WiredOnce)

include h

theorem wiredOnce_edited {page : Option Page} (hpage : ∀ last ∈ page, last.WiredOnce) :
    (session.edited page).session.page.WiredOnce := by
  cases page with
  | none => exact h
  | some last => exact hpage last rfl

theorem wiredOnce_typed (node : Option Scene.Node) (value event : String) :
    let reply := session.typed (node.map fun node => session.page.typed node value event)
    reply.session.page.WiredOnce :=
  match node with
  | none => h
  | some node => h.typed node value event

theorem wiredOnce_runPass {α : Type} {pass : Visit → Page → Pass.Outcome Page α}
    (hpass : ∀ visit, (pass visit session.page).state.WiredOnce) :
    (session.runPass pass).session.page.WiredOnce := by
  rw [runPass]
  cases session.environment.visit with
  | error error => exact h
  | ok visit => exact hpass visit

variable [Browser]

theorem wiredOnce_run (settings : Settings) : (session.run settings).session.page.WiredOnce := by
  rw [run, Pass.all]
  cases session.environment.visit with
  | error error => exact h
  | ok visit => exact h.visited visit settings

theorem wiredOnce_runWhenLoaded (settings : Settings) :
    (session.runWhenLoaded settings).session.page.WiredOnce := by
  rw [runWhenLoaded]
  cases session.environment.checkDocument with
  | error error => exact h
  | ok =>
      simp only
      split
      · exact h
      · exact wiredOnce_run h settings

theorem wiredOnce_runAllWaiting (waiting : List Settings) :
    (session.runAllWaiting waiting).1.page.WiredOnce := by
  induction waiting generalizing session with
  | nil => exact h
  | cons settings rest ih =>
      have hone : (session.runWaiting settings).1.page.WiredOnce := by
        have hrun := wiredOnce_run h settings
        rw [runWaiting]
        cases (session.run settings).answer with
        | ok => exact hrun
        | error error => exact hrun
      exact ih hone

theorem wiredOnce_windowEvent (name : String) :
    (session.windowEvent name).session.page.WiredOnce := by
  rw [windowEvent]
  split
  · exact wiredOnce_runAllWaiting h session.waiting
  · exact h

theorem wiredOnce_start [Log.PatternEngine] :
    (session.perform .start).session.page.WiredOnce := by
  cases hinstalled : session.installation? with
  | none =>
      rw [perform_start_of_none hinstalled]
      exact h
  | some installed =>
      have hopened : ({ session with recorder := installed.1 } : Session).page.WiredOnce := h
      rw [perform_start_of_some hinstalled]
      exact wiredOnce_runWhenLoaded hopened _

end

/-- An action that does not tamper with tags: it sets no tag itself, and what it appends has
neither tags nor filters. -/
def Action.Ordinary : Action → Prop
  | .append _ nodes => (Page.mk nodes).Fresh
  | .setAttribute _ name _ => name ≠ boundAttribute
  | _ => True

section

variable [Browser] [Log.PatternEngine]

inductive Reachable (first : Session) : Session → Prop where
  | refl : Reachable first first
  | step {session : Session} {action : Action} (h : Reachable first session)
      (haction : action.Ordinary) : Reachable first (session.perform action).session

theorem wiredOnce_perform {session : Session} (h : session.page.WiredOnce) {action : Action}
    (haction : action.Ordinary) : (session.perform action).session.page.WiredOnce := by
  cases action with
  | start => exact wiredOnce_start h
  | refresh => exact wiredOnce_run h _
  | run settings => exact wiredOnce_run h settings
  | highlightSidebar settings =>
      exact wiredOnce_runPass h fun visit => h.highlightSidebar visit settings
  | activateTabs settings => exact wiredOnce_runPass h fun visit => h.activateTabs visit settings
  | wireNumeric settings => exact wiredOnce_runPass h fun _ => h.wireNumeric settings
  | readSettings => exact h
  | readVisit => exact h
  | install app directive =>
      rw [perform, install?]
      cases session.recorder.install? app directive with
      | none => exact h
      | some installed => exact h
  | changeEnvironment change => exact h
  | windowEvent name => exact wiredOnce_windowEvent h name
  | type selector value event => exact wiredOnce_typed h _ value event
  | typeAt id value event => exact wiredOnce_typed h _ value event
  | append selector nodes =>
      have hnodes := Page.Fresh.wiredOnce haction
      cases selector with
      | none =>
          apply wiredOnce_edited h
          rintro last ⟨⟩
          exact h.append hnodes
      | some selector => exact wiredOnce_edited h fun last hlast => h.appendTo? hnodes hlast
  | remove selector => exact wiredOnce_edited h fun last hlast => h.remove? hlast
  | setAttribute selector name value =>
      exact wiredOnce_edited h fun last hlast => h.setAttribute? haction hlast

theorem wiredOnce_of_reachable {first session : Session} (hfresh : first.page.Fresh)
    (h : first.Reachable session) : session.page.WiredOnce := by
  induction h with
  | refl => exact hfresh.wiredOnce
  | step _ haction ih => exact wiredOnce_perform ih haction

end

end Session

/-! ### A pass in a state where tags and filters are together -/

namespace Pass

variable [Browser]

/-- The pass wires exactly the fields that the selector finds without a filter, and no further pass
wires one of them again. -/
structure WiresOnce (settings : Settings) (page : Page) (fields : List Nat) : Prop where
  result : (wireNumeric settings page).result = .ok fields.length
  state : (wireNumeric settings page).state.content =
    (page.scene.attached.update (wireListed fields) fun _ => none).unnumber
  never_again : ∀ again, ∀ id ∈ fields,
    id ∉ unboundFields again (wireNumeric settings page).state.scene

theorem wiresOnce_of_wiredOnce {page : Page} (h : page.WiredOnce) {settings : Settings}
    {selector : Selector} (hread : Browser.selector? settings.numericSelector = some selector) :
    WiresOnce settings page
      (((page.scene.select selector).filter fun node =>
        node.element.isInput && node.element.filters == 0).map Scene.Node.id) := by
  have hfields : ((page.scene.select selector).filter fun node =>
      node.element.isInput && node.element.filters == 0).map Scene.Node.id =
        unboundFields settings page.scene := by
    rw [unboundFields, hread, Option.map_some, Option.getD_some]
    refine congrArg (List.map Scene.Node.id) (List.filter_congr ?_)
    intro node hnode
    obtain ⟨place, hplace, -, rfl⟩ := Scene.mem_select.mp hnode
    exact (h.place hplace).isUnbound_eq.symm
  rw [hfields]
  refine ⟨?_, ?_, fun again id hid => not_mem_unboundFields_of_wired hid again⟩
  · rw [wireNumeric, unboundFields, hread, Option.map_some, Option.getD_some, List.length_map]
  · rw [wireNumeric_state, Scene.page, attached_wireAll (nodup_unboundFields settings
      (Scene.nodup_attached (Scene.nodup_numbers_scene page)))]

end Pass

/-! ### Input events -/

namespace Page

variable {page : Page}

/-- An input event into an element with tag and filters together. -/
theorem WiredOnce.typed_eq (h : page.WiredOnce) {place : Place} (hplace : place ∈ page.scene.places)
    (value : String) :
    page.typed place.node value "input" =
      (page.edit (·.change place.node.id (·.setValue
          (Element.typedValue (place.node.element.hasAttribute boundAttribute) value))),
        place.node.element.filters) := by
  have hfilters : place.node.element.filters =
      if place.node.element.hasAttribute boundAttribute then 1 else 0 := h.place hplace
  have htyped (element : Element) : element.typed value place.node.element.filters =
      element.setValue
        (Element.typedValue (place.node.element.hasAttribute boundAttribute) value) := by
    rw [hfilters]
    exact Element.typed_eq element value _
  rw [Page.typed, if_pos rfl]
  simp only [htyped]

/-- A change of a value, as an update. -/
theorem updated_value (page : Page) (id : Nat) (value : String) :
    page.scene.Updated (page.edit (·.change id (·.setValue value))).scene
      (fun other element => if other = id then element.setValue value else element)
      fun _ => none := by
  have hattached := Forest.change_eq_update id (·.setValue value) page.scene.attached
  exact Scene.updated_page (show (Scene.mk (page.scene.attached.change id (·.setValue value))
    .nil).attached = _ from hattached)

/-- A value that is set again, or that is there, changes nothing. -/
theorem edit_value_eq_self {id : Nat} {value : String}
    (h : ∀ place ∈ page.scene.places, place.node.id = id → place.node.element.value = value) :
    page.edit (·.change id (·.setValue value)) = page := by
  rw [edit, Forest.change_eq_self]
  · exact page.page_scene
  · intro entry hentry hid
    obtain ⟨place, hplace, rfl⟩ := Forest.exists_place_of_mem_toList [] hentry
    rw [Element.setValue, ← h place hplace hid]

theorem value_of_edit {id : Nat} {value : String} {place : Place}
    (hplace : place ∈ (page.edit (·.change id (·.setValue value))).scene.places)
    (hid : place.node.id = id) : place.node.element.value = value := by
  rw [(updated_value page id value).places_eq] at hplace
  obtain ⟨before, -, rfl⟩ := List.mem_map.mp hplace
  rw [Place.id_updated] at hid
  rw [Place.element_updated, if_pos hid]
  rfl

theorem edit_edit_value (page : Page) (id : Nat) (value : String) :
    (page.edit (·.change id (·.setValue value))).edit (·.change id (·.setValue value)) =
      page.edit (·.change id (·.setValue value)) :=
  edit_value_eq_self fun _ hplace => value_of_edit hplace

theorem edit_own_value {place : Place} (hplace : place ∈ page.scene.places) :
    page.edit (·.change place.node.id (·.setValue place.node.element.value)) = page := by
  apply edit_value_eq_self
  intro other hother hid
  rw [Forest.place_unique (Scene.nodup_attached (Scene.nodup_numbers_scene page)) hother hplace hid]

/-! ### Elements that are found again -/

/-- A way to find an element of a page, which finds the same one with the same tag when a value has
changed. -/
structure Finds (find? : Page → Option Scene.Node) : Prop where
  place : ∀ page node, find? page = some node → ∃ place ∈ page.scene.places, place.node = node
  again : ∀ page node, find? page = some node → ∀ id value,
    ∃ found, find? (page.edit (·.change id (·.setValue value))) = some found ∧
      found.id = node.id ∧
        found.element.hasAttribute boundAttribute = node.element.hasAttribute boundAttribute

theorem hasAttribute_value (node : Scene.Node) (id : Nat) (value : String) :
    (node.updated (fun other element => if other = id then element.setValue value else element)
      fun _ => none).element.hasAttribute boundAttribute =
        node.element.hasAttribute boundAttribute := by
  show (if node.id = id then node.element.setValue value else node.element).hasAttribute _ = _
  split
  · rfl
  · rfl

theorem node?_eq_some_iff {id : Nat} {node : Scene.Node} :
    page.node? id = some node ↔ ∃ place ∈ page.scene.places, place.node = node ∧ node.id = id := by
  have hnodup := Scene.nodup_attached (Scene.nodup_numbers_scene page)
  constructor
  · intro h
    rw [node?] at h
    have hplaces := Forest.locate?_eq_places id [] [] page.scene.attached
    rw [List.map_nil, List.nil_append] at hplaces
    rw [hplaces, Option.map_map, Option.map_eq_some_iff] at h
    obtain ⟨place, hfind, rfl⟩ := h
    exact ⟨place, List.mem_of_find?_eq_some hfind, rfl, by simpa using List.find?_some hfind⟩
  · rintro ⟨place, hplace, rfl, rfl⟩
    have hlocate := Forest.locate?_of_mem_places hnodup hplace []
    rw [List.map_nil, List.nil_append] at hlocate
    rw [node?, hlocate, Option.map_some]

/-- By its number. -/
theorem finds_node? (id : Nat) : Finds (·.node? id) where
  place := by
    intro page node hnode
    obtain ⟨place, hplace, hsame, -⟩ := node?_eq_some_iff.mp hnode
    exact ⟨place, hplace, hsame⟩
  again := by
    intro page node hnode changed value
    obtain ⟨place, hplace, rfl, hid⟩ := node?_eq_some_iff.mp hnode
    have hlater := (updated_value page changed value).mem_places hplace (Place.kept_none place)
    exact ⟨_, node?_eq_some_iff.mpr ⟨_, hlater, rfl, hid⟩, rfl,
      hasAttribute_value place.node changed value⟩

/-- As the first that a selector accepts. -/
theorem finds_first? [Browser] (text : String) : Finds (·.first? text) where
  place := by
    intro page node hnode
    obtain ⟨selector, -, hhead⟩ := Option.bind_eq_some_iff.mp hnode
    obtain ⟨place, hplace, -, rfl⟩ := Scene.mem_select.mp (List.mem_of_head? hhead)
    exact ⟨place, hplace, rfl⟩
  again := by
    intro page node hnode id value
    have hupdated := updated_value page id value
    obtain ⟨selector, hread, hhead⟩ := Option.bind_eq_some_iff.mp hnode
    have halike (other : Nat) (element : Element) :
        selector.Alike (if other = id then element.setValue value else element) element := by
      split
      · exact Element.alike_value selector element value
      · exact .refl selector element
    have hselect : (page.edit (·.change id (·.setValue value))).scene.select selector =
        (page.scene.select selector).map (Scene.Node.updated
          (fun other element => if other = id then element.setValue value else element)
          fun _ => none) := by
      rw [Scene.select_eq_places, Scene.select_eq_places, hupdated.filter_places halike,
        List.filter_eq_self.mpr fun place _ => Place.kept_none place, List.map_map, List.map_map]
      rfl
    refine ⟨node.updated
      (fun other element => if other = id then element.setValue value else element) fun _ => none,
      ?_, rfl, hasAttribute_value node id value⟩
    show first? _ text = _
    rw [first?, hread, Option.bind_some, hselect, List.head?_map, hhead, Option.map_some]

end Page

namespace Session

section

variable [Browser] [Log.PatternEngine]

/-- What input events at an element come to, where `typing` is to type a value into it. A wired
field is left with the digits of the value, and any other element with the value as it is; to type
what is left again changes nothing, nor does it to type into an element that is not wired what it
holds. -/
def LeavesDigits (session : Session) (node : Scene.Node) (typing : String → Action) : Prop :=
  ∀ value,
    let left := if node.element.hasAttribute boundAttribute then asciiDigits value else value
    let last := (session.perform (typing value)).session
    last = { session with page := session.page.edit (·.change node.id (·.setValue left)) } ∧
      (last.perform (typing left)).session = last ∧
      (node.element.hasAttribute boundAttribute = false →
        (session.perform (typing node.element.value)).session = session)

theorem leavesDigits_of_finds {session : Session} (honce : session.page.WiredOnce)
    {find? : Page → Option Scene.Node} (hfinds : Page.Finds find?) {typing : String → Action}
    (htyping : ∀ (other : Session) value, other.perform (typing value) =
      other.typed ((find? other.page).map fun node => other.page.typed node value "input"))
    {node : Scene.Node} (hnode : find? session.page = some node) :
    session.LeavesDigits node typing := by
  intro value left last
  obtain ⟨place, hplace, rfl⟩ := hfinds.place _ _ hnode
  have hlast : last = { session with
      page := session.page.edit (·.change place.node.id (·.setValue left)) } := by
    show (session.perform (typing value)).session = _
    rw [htyping, hnode, Option.map_some, honce.typed_eq hplace]
    rfl
  refine ⟨hlast, ?_, ?_⟩
  · have hpage : last.page.WiredOnce := by
      show (session.perform (typing value)).session.page.WiredOnce
      rw [htyping]
      exact wiredOnce_typed honce _ value "input"
    -- after the edit the same element is found, and a second correction finds only digits
    obtain ⟨found, hfound, hid, htag⟩ := hfinds.again _ _ hnode place.node.id left
    obtain ⟨later, hlater, rfl⟩ := hfinds.place _ _ hfound
    have hsame :
        Element.typedValue (later.node.element.hasAttribute boundAttribute) left = left := by
      rw [htag]
      exact Element.typedValue_typedValue _ value
    rw [hlast] at hpage ⊢
    rw [htyping, hfound, Option.map_some, hpage.typed_eq hlater, hsame, hid]
    simp only [typed, Page.edit_edit_value]
  · intro htag
    have hvalue : Element.typedValue false place.node.element.value = place.node.element.value :=
      rfl
    rw [htyping, hnode, Option.map_some, honce.typed_eq hplace, htag, hvalue]
    simp only [typed, Page.edit_own_value hplace]

/-- In a state that is reached, tags and filters are together. So a pass wires each field once, and
an input event at any element, be it told by a selector or by its number, leaves the digits of what
is typed in a wired field and nothing but what is typed in any other. -/
theorem reachable_wiring {first session : Session} (hfresh : first.page.Fresh)
    (h : first.Reachable session) :
    (∀ element ∈ session.page.content.toList, element.filters ≤ 1 ∧
      (element.filters = 1 ↔ element.hasAttribute boundAttribute = true)) ∧
    (∀ settings selector, Browser.selector? settings.numericSelector = some selector →
      Pass.WiresOnce settings session.page
        (((session.page.scene.select selector).filter fun node =>
          node.element.isInput && node.element.filters == 0).map Scene.Node.id)) ∧
    (∀ id node, session.page.node? id = some node →
      session.LeavesDigits node fun value => .typeAt id value "input") ∧
    ∀ text node, session.page.first? text = some node →
      session.LeavesDigits node fun value => .type text value "input" := by
  have honce := wiredOnce_of_reachable hfresh h
  refine ⟨?_, ?_, ?_, ?_⟩
  · intro element helement
    exact ⟨(honce element helement).filters_le_one, (honce element helement).filters_eq_one_iff⟩
  · intro settings selector hread
    exact Pass.wiresOnce_of_wiredOnce honce hread
  · intro id node hnode
    exact leavesDigits_of_finds honce (Page.finds_node? id) (fun _ _ => rfl) hnode
  · intro text node hnode
    exact leavesDigits_of_finds honce (Page.finds_first? text) (fun _ _ => rfl) hnode

end

/-- Two fields that no selector tells apart. -/
def fieldSession : Session :=
  let field := Element.ofMarkup "input" [("data-numeric", "true"), ("value", "7 days")]
  { linkedPage true with page := ⟨.element field .nil (.element field .nil .nil)⟩ }

/-- Both are wired by a visit, before something is typed into the second one. -/
theorem reachable_wiring_fieldSession :
    let wired := (fieldSession.perform .start).session
    let typed := (wired.perform (.typeAt 1 "1 000" "input")).session
    fieldSession.page.Fresh ∧ fieldSession.Reachable wired ∧
      wired.page.content.toList.map Element.filters = [1, 1] ∧
      typed.page.content.toList.map Element.value = ["7 days", "1000"] ∧
      (typed.perform (.typeAt 1 "1000" "input")).session = typed := by
  intro wired typed
  have hfresh : fieldSession.page.Fresh := by decide +kernel
  have hreachable : fieldSession.Reachable wired := .step .refl trivial
  obtain ⟨node, hnode, htag⟩ : ∃ node, wired.page.node? 1 = some node ∧
      node.element.hasAttribute boundAttribute = true :=
    (Option.any_eq_true _ _).mp (by decide +kernel)
  have hleft : (if node.element.hasAttribute boundAttribute then asciiDigits "1 000" else "1 000") =
      "1000" := by
    rw [if_pos htag]
    decide +kernel
  have hagain := ((reachable_wiring hfresh hreachable).2.2.1 1 node hnode "1 000").2.1
  rw [hleft] at hagain
  exact ⟨hfresh, hreachable, by decide +kernel, by decide +kernel, hagain⟩

end Session

end PageSync
