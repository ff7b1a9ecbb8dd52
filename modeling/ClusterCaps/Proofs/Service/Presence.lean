import ClusterCaps.Proofs.Service.Stroke

set_option autoImplicit false

namespace ClusterCaps

namespace Service

open Protocol

def Lists (name : String) (outcome : Except PassError Findings) : Prop :=
  ∃ (topology : Topology) (options : ProbeOptions) (parallelism : Nat) (deployment : Deployment),
    (∀ nodes, topology.nodes = .ok nodes → ⟨name, .sql⟩ ∈ nodes) ∧
      (Pass.run topology options parallelism deployment).result = outcome.mapError Stop.failed

theorem lists_named (name : String) (findings : Findings) (lists : Lists name (.ok findings)) :
    name ∈ findings.names := by
  obtain ⟨topology, options, parallelism, deployment, listed, found⟩ := lists
  obtain ⟨nodes, read, names⟩ := Pass.run_names topology options parallelism deployment findings found
  rw [Findings.names, names]
  exact List.mem_map.mpr ⟨⟨name, .sql⟩, List.mem_filter.mpr ⟨listed nodes read, rfl⟩, rfl⟩

-- A pass of the run has made this snapshot of the node; at most the heartbeat is what a recheck has told since.
def Made (name : String) (record : List Sighting) (snapshot : Node.Snapshot) : Prop :=
  ∃ findings built, Probed findings record ∧ (name, built) ∈ findings.snapshots ∧ built.steady = snapshot.steady ∧
    ((∀ seen ∈ record, ∀ edition supported, seen.sign ≠ .beat name edition supported) → built = snapshot)

theorem made_cons (name : String) (seen : Sighting) (record : List Sighting) (snapshot : Node.Snapshot)
    (made : Made name record snapshot) : Made name (seen :: record) snapshot := by
  obtain ⟨findings, built, probed, member, steady, still⟩ := made
  refine ⟨findings, built, probed_cons findings seen record probed, member, steady, fun unbeaten => ?_⟩
  exact still fun other there => unbeaten other (List.mem_cons_of_mem seen there)

def Faithful (name : String) (record : List Sighting) (nodes : NameMap Node.Snapshot) : Prop :=
  ∀ snapshot, nodes.lookup name = some snapshot → Made name record snapshot

theorem faithful_signed (name : String) (thread : Nat) (signs : List Sign) (record : List Sighting)
    (nodes : NameMap Node.Snapshot) (made : Faithful name record nodes) :
    Faithful name (signed thread signs record) nodes := by
  induction signs with
  | nil => exact made
  | cons sign signs ih => exact fun snapshot known => made_cons name _ _ snapshot (ih snapshot known)

def Present (name : String) (manager : Manager) : Prop := manager.nodes.lookup name ≠ none

-- What the thread that holds the lock knows of the node. Until the pass puts it in, it may be missing.
def Mindful (name : String) (manager : Manager) (record : List Sighting) : Work → Prop
  | .passing _ _ (.naming (.ok findings)) => Probed findings record ∧ name ∈ findings.names
  | .passing _ _ (.inserting findings rest) =>
      Probed findings record ∧ name ∈ findings.names ∧ rest ⊆ findings.snapshots ∧
        (name ∈ rest.map (·.1) ∨ Present name manager)
  | .passing _ _ (.skipping _) => Present name manager
  | .passing _ _ (.flagging _) => Present name manager
  | .passing _ _ .absolving => Present name manager
  | .passing _ _ .readying => Present name manager
  | .leaving (.error _) => manager.phase ≠ .ready
  | _ => True

def Emptied : Work → Prop
  | .clearing .nodes => False
  | .clearing _ => True
  | _ => False

structure Fit (name : String) (manager : Manager) (record : List Sighting) (work : Work) : Prop where
  made : Faithful name record manager.nodes
  present : manager.phase = .ready → Present name manager ∨ Emptied work
  mindful : Mindful name manager record work

structure Guarded (name : String) (system : System) (record : List Sighting) : Prop where
  legal : Protocol.Invariant system
  free : system.holder? = none → Fit name system.manager record .parting
  held : ∀ thread work, system.points thread = .inside work → Fit name system.manager record work

theorem mindful_cons (name : String) (manager : Manager) (seen : Sighting) (record : List Sighting) (work : Work)
    (mindful : Mindful name manager record work) : Mindful name manager (seen :: record) work := by
  cases work with
  | passing first restore stage =>
      cases stage with
      | naming outcome =>
          cases outcome with
          | ok findings => exact ⟨probed_cons findings seen record mindful.1, mindful.2⟩
          | error _ => trivial
      | inserting findings rest => exact ⟨probed_cons findings seen record mindful.1, mindful.2⟩
      | _ => exact mindful
  | leaving result => cases result <;> exact mindful
  | _ => trivial

theorem fit_cons (name : String) (manager : Manager) (seen : Sighting) (record : List Sighting) (work : Work)
    (fit : Fit name manager record work) : Fit name manager (seen :: record) work :=
  ⟨fun snapshot known => made_cons name seen record snapshot (fit.made snapshot known), fit.present,
    mindful_cons name manager seen record work fit.mindful⟩

theorem fit_signed (name : String) (manager : Manager) (thread : Nat) (signs : List Sign) (record : List Sighting)
    (work : Work) (fit : Fit name manager record work) : Fit name manager (signed thread signs record) work := by
  induction signs with
  | nil => exact fit
  | cons sign signs ih => exact fit_cons name manager ⟨thread, sign⟩ _ work ih

theorem opens_fit (name : String) (manager : Manager) (record : List Sighting) (work : Work) (opens : work.Opens)
    (fit : Fit name manager record .parting) : Fit name manager record work := by
  obtain ⟨made, present, _⟩ := fit
  have there : manager.phase = .ready → Present name manager := fun ready => (present ready).resolve_right id
  cases work with
  | holding seen => exact ⟨made, fun ready => Or.inl (there ready), trivial⟩
  | choosing => exact ⟨made, fun ready => Or.inl (there ready), trivial⟩
  | clearing wipe => exact ⟨made, fun ready => Or.inl (there ready), trivial⟩
  | _ => exact False.elim opens

theorem fit_next (name : String) (manager after : Manager) (record : List Sighting) (work next : Work)
    (full : ¬ Emptied work) (nodes : after.nodes = manager.nodes)
    (phase : after.phase = .ready → manager.phase = .ready) (mindful : Mindful name after record next)
    (fit : Fit name manager record work) : Fit name after record next := by
  refine ⟨?_, fun ready => Or.inl ?_, mindful⟩
  · rw [nodes]
    exact fit.made
  · have there := (fit.present (phase ready)).resolve_right full
    rw [Present, nodes]
    exact there

theorem inserting_fit (name : String) (move : Move) (manager : Manager) (record : List Sighting) (first : Bool)
    (restore : Phase) (findings : Findings) (rest : List (String × Node.Snapshot)) (other : String)
    (snapshot : Node.Snapshot)
    (fit : Fit name manager record (.passing first restore (.inserting findings ((other, snapshot) :: rest)))) :
    Fit name { manager with nodes := manager.nodes.insert other snapshot }
      (⟨move.thread, .placed other snapshot⟩ :: record) (.passing first restore (.inserting findings rest)) := by
  obtain ⟨made, present, probed, named, subset, ahead⟩ := fit
  obtain ⟨member, later⟩ := List.cons_subset.mp subset
  have still := probed_cons findings ⟨move.thread, .placed other snapshot⟩ record probed
  by_cases same : name = other
  · subst same
    have now : (manager.nodes.insert name snapshot).lookup name = some snapshot :=
      NameMap.lookup_insert_self _ _ _
    have there : Present name { manager with nodes := manager.nodes.insert name snapshot } := by
      rw [Present, now]
      exact Option.some_ne_none snapshot
    refine ⟨fun found known => ?_, fun _ => Or.inl there, still, named, later, Or.inr there⟩
    cases now.symm.trans known
    exact ⟨findings, snapshot, still, member, rfl, fun _ => rfl⟩
  · have before : (manager.nodes.insert other snapshot).lookup name = manager.nodes.lookup name :=
      NameMap.lookup_insert_of_ne _ _ _ _ same
    have kept : Present name manager → Present name { manager with nodes := manager.nodes.insert other snapshot } :=
      fun there missing => there (before.symm.trans missing)
    refine ⟨fun found known => ?_, fun ready => Or.inl ?_, still, named, later, ?_⟩
    · exact made_cons name _ record found (made found (before.symm.trans known))
    · exact kept ((present ready).resolve_right id)
    · refine ahead.imp (fun waiting => ?_) kept
      exact (List.mem_cons.mp waiting).resolve_left same

theorem retaining_fit (name : String) (move : Move) (manager : Manager) (record : List Sighting) (first : Bool)
    (restore : Phase) (findings : Findings)
    (fit : Fit name manager record (.passing first restore (.inserting findings []))) :
    Fit name { manager with nodes := manager.nodes.retain findings.names }
      (⟨move.thread, .listed findings⟩ :: record) (.passing first restore (.skipping findings)) := by
  obtain ⟨made, _, _, named, _, ahead⟩ := fit
  have same : (manager.nodes.retain findings.names).lookup name = manager.nodes.lookup name := by
    rw [NameMap.lookup_retain, if_pos named]
  have there : Present name { manager with nodes := manager.nodes.retain findings.names } := by
    rw [Present, same]
    exact ahead.resolve_left List.not_mem_nil
  refine ⟨fun found known => ?_, fun _ => Or.inl there, there⟩
  exact made_cons name _ record found (made found (same.symm.trans known))

theorem stage_fit (name : String) (move : Move) (manager : Manager) (history : List Event) (record : List Sighting)
    (first : Bool) (restore : Phase) (stage : Stage) (kept : Kept (.passing first restore stage) manager history)
    (placed : (Work.passing first restore stage).Placed move.thread history)
    (lists : Lists name move.outcome) (fit : Fit name manager record (.passing first restore stage)) :
    let effect := stage.run move manager first restore
    Fit name effect.manager (signed move.thread (workSign? move.outcome (.passing first restore stage)).toList record)
      (effect.next?.getD .parting) := by
  cases stage with
  | starting =>
      have same := manager.during_eq restore
      refine fit_next name manager (manager.during restore) record _ _ id (by rw [same]) (fun ready => ?_) trivial fit
      rwa [manager.during_ready restore ready] at ready
  | running =>
      have grown := fit_cons name manager ⟨move.thread, .probed move.outcome⟩ record _ fit
      refine fit_next name manager manager _ _ (.passing first restore (.naming move.outcome)) id rfl id ?_ grown
      cases outcome : move.outcome with
      | error _ => trivial
      | ok findings =>
          rw [outcome] at lists
          exact ⟨⟨move.thread, List.mem_cons_self⟩, lists_named name findings lists⟩
  | naming outcome =>
      cases outcome with
      | error error =>
          exact fit_next name manager _ record _ (.passing first restore (.restoring error)) id rfl id trivial fit
      | ok findings =>
          obtain ⟨probed, named⟩ := fit.mindful
          exact fit_next name manager _ record _ (.passing first restore (.inserting findings findings.snapshots))
            id rfl id ⟨probed, named, List.Subset.refl _, Or.inl named⟩ fit
  | restoring error =>
      refine fit_next name manager _ record _ (.passing first restore (.blaming error)) id rfl ?_ trivial fit
      exact fun (ready : restore = .ready) => kept.phase.trans (if_pos ready)
  | blaming error =>
      exact fit_next name manager _ record _ (.passing first restore (.counting (.error error))) id rfl id trivial fit
  | inserting findings rest =>
      cases rest with
      | nil => exact retaining_fit name move manager record first restore findings fit
      | cons entry rest =>
          obtain ⟨other, snapshot⟩ := entry
          exact inserting_fit name move manager record first restore findings rest other snapshot fit
  | skipping findings =>
      exact fit_next name manager { manager with skipped := findings.skipped } _ _
        (.passing first restore (.flagging findings)) id rfl id fit.mindful (fit_cons name manager _ record _ fit)
  | flagging findings =>
      exact fit_next name manager { manager with cluster := findings.cluster } _ _ (.passing first restore .absolving)
        id rfl id fit.mindful (fit_cons name manager _ record _ fit)
  | absolving =>
      exact fit_next name manager { manager with lastError? := none } _ _ (.passing first restore .readying)
        id rfl id fit.mindful fit
  | readying => exact ⟨fit.made, fun _ => Or.inl fit.mindful, trivial⟩
  | counting outcome =>
      refine fit_next name manager { manager with passes := manager.passes + 1 } _ _ (.afterPass first outcome)
        id rfl id ?_ fit
      cases outcome with
      | ok _ => cases first <;> trivial
      | error error =>
          cases first with
          | false => trivial
          | true =>
              -- The pass was one that `ensure` runs, and so the phase is what it was before.
              have unready := (placed.2.1 rfl).1
              intro ready
              have restored : restore = .ready := kept.phase.symm.trans ready
              rw [unready] at restored
              cases restored

theorem wipe_fit (name : String) (move : Move) (manager : Manager) (record : List Sighting) (wipe : Wipe)
    (fit : Fit name manager record (.clearing wipe)) :
    let effect := wipe.run manager
    Fit name effect.manager (signed move.thread (workSign? move.outcome (.clearing wipe)).toList record)
      (effect.next?.getD .parting) := by
  cases wipe with
  | nodes => exact ⟨fun _ => nofun, fun _ => Or.inr trivial, trivial⟩
  | skipped =>
      have grown := fit_cons name manager ⟨move.thread, .blanked⟩ record _ fit
      exact ⟨grown.made, fun _ => Or.inr trivial, trivial⟩
  | cluster =>
      have grown := fit_cons name manager ⟨move.thread, .wiped⟩ record _ fit
      exact ⟨grown.made, fun _ => Or.inr trivial, trivial⟩
  | error => exact ⟨fit.made, fun _ => Or.inr trivial, trivial⟩
  | phase =>
      have grown := fit_cons name manager ⟨move.thread, .forgot⟩ record _ fit
      exact ⟨grown.made, nofun, trivial⟩

theorem work_fit (name : String) (move : Move) (manager : Manager) (history : List Event) (record : List Sighting)
    (work : Work) (kept : Kept work manager history) (placed : work.Placed move.thread history)
    (lists : Lists name move.outcome) (fit : Fit name manager record work) :
    let effect := work.run move manager
    Fit name effect.manager (signed move.thread (workSign? move.outcome work).toList record)
      (effect.next?.getD .parting) := by
  cases work with
  | passing first restore stage =>
      exact stage_fit name move manager history record first restore stage kept placed lists fit
  | clearing wipe => exact wipe_fit name move manager record wipe fit
  | holding seen =>
      refine fit_next name manager manager record _ _ id rfl id ?_ fit
      by_cases ready : manager.phase = .ready
      · simp only [Work.run, if_pos ready]
        trivial
      · simp only [Work.run, if_neg ready]
        trivial
  | comparing seen =>
      refine fit_next name manager manager record _ _ id rfl id ?_ fit
      by_cases same : manager.passes = seen
      · simp only [Work.run, if_pos same]
        trivial
      · simp only [Work.run, if_neg same]
        trivial
  | sharing seen =>
      refine fit_next name manager manager record _ _ id rfl id ?_ fit
      cases shared : manager.lastError? with
      | none =>
          simp only [Work.run, shared]
          trivial
      | some error =>
          simp only [Work.run, shared]
          intro ready
          cases (kept.phase.symm.trans ready).symm.trans placed.2.1
  | choosing => exact fit_next name manager manager record _ _ id rfl id trivial fit
  | leaving result => exact fit_next name manager manager record _ .parting id rfl id trivial fit
  | looking => exact fit_next name manager manager record _ .parting id rfl id trivial fit
  | parting => exact fit

theorem outside_guarded (name : String) (system : System) (record : List Sighting) (move : Move)
    (outside : (system.points move.thread).Outside) (guarded : Guarded name system record) :
    Guarded name (system.step move) record := by
  have legal := step_invariant system move guarded.legal
  have placed (point : Point) (mark? : Option Mark) (stays : point.Outside)
      (legal : Protocol.Invariant (system.place move.thread point mark?)) :
      Guarded name (system.place move.thread point mark?) record := by
    refine ⟨legal, guarded.free, fun thread work inside => ?_⟩
    by_cases own : thread = move.thread
    · rw [own, place_same] at inside
      exact absurd inside (outside_not_inside point work stays)
    · rw [place_other _ _ _ _ _ own] at inside
      exact guarded.held thread work inside
  have known := guarded.legal.placed move.thread
  unfold System.step at legal ⊢
  cases point : system.points move.thread with
  | inside work =>
      rw [point] at outside
      exact False.elim outside
  | idle =>
      rw [point] at legal
      cases asked : move.ask with
      | ensure =>
          rw [asked] at legal
          exact placed .entered _ trivial legal
      | refresh =>
          rw [asked] at legal
          exact placed (.wanting .choosing) _ trivial legal
      | reset =>
          rw [asked] at legal
          exact placed (.wanting (.clearing .nodes)) _ trivial legal
  | entered =>
      rw [point] at legal
      exact placed (.noted system.manager.passes) _ trivial legal
  | noted seen =>
      rw [point] at legal
      by_cases ready : system.manager.phase = .ready
      · simp only [if_pos ready] at legal ⊢
        exact placed .idle _ trivial legal
      · simp only [if_neg ready] at legal ⊢
        exact placed (.wanting (.holding seen)) _ trivial legal
  | wanting work =>
      rw [point] at legal known
      cases holder : system.holder? with
      | some _ => exact guarded
      | none =>
          rw [holder] at legal
          refine ⟨legal, nofun, fun thread other inside => ?_⟩
          by_cases own : thread = move.thread
          · rw [own, place_same] at inside
            cases inside
            exact opens_fit name system.manager record work known.1 (guarded.free holder)
          · rw [place_other _ _ _ _ _ own] at inside
            have holds := (guarded.legal.lock thread).mpr ⟨other, inside⟩
            rw [holder] at holds
            cases holds

theorem inside_guarded (name : String) (system : System) (record : List Sighting) (move : Move) (work : Work)
    (point : system.points move.thread = .inside work) (lists : Lists name move.outcome)
    (guarded : Guarded name system record) :
    Guarded name (system.step move) (signed move.thread (workSign? move.outcome work).toList record) := by
  have legal := step_invariant system move guarded.legal
  have known := guarded.legal.placed move.thread
  rw [point] at known
  have fit := work_fit name move system.manager system.history record work
    (guarded.legal.held move.thread work point) known lists (guarded.held move.thread work point)
  dsimp only at fit
  obtain ⟨same, only⟩ := inside_frames system move work guarded.legal point
  refine ⟨legal, fun unheld => ?_, fun thread other inside => ?_⟩
  · rw [same]
    cases ended : (work.run move system.manager).next? with
    | none =>
        rw [ended] at fit
        exact fit
    | some next =>
        have holds := (legal.lock move.thread).mpr ⟨next, (step_inside system move work point).2 next ended⟩
        rw [unheld] at holds
        cases holds
  · rw [same]
    rw [only thread other inside] at fit
    exact fit

theorem guarded_signed (name : String) (system : System) (thread : Nat) (signs : List Sign) (record : List Sighting)
    (guarded : Guarded name system record) : Guarded name system (signed thread signs record) :=
  ⟨guarded.legal, fun unheld => fit_signed name _ thread signs record _ (guarded.free unheld),
    fun user work inside => fit_signed name _ thread signs record _ (guarded.held user work inside)⟩

theorem system_guarded (name : String) (system : System) (record : List Sighting) (move : Move)
    (lists : Lists name move.outcome) (guarded : Guarded name system record) :
    Guarded name (system.step move)
      (signed move.thread (pointSign? move.outcome (system.points move.thread)).toList record) := by
  cases point : system.points move.thread with
  | inside work => exact inside_guarded name system record move work point lists guarded
  | _ => exact outside_guarded name system record move (by rw [point]; trivial) guarded

theorem guarded_fit (name : String) (system : System) (record : List Sighting)
    (guarded : Guarded name system record) :
    ∃ work, Fit name system.manager record work ∧ (Emptied work → ∃ thread, system.points thread = .inside work) := by
  cases holder : system.holder? with
  | none => exact ⟨.parting, guarded.free holder, False.elim⟩
  | some thread =>
      obtain ⟨work, inside⟩ := (guarded.legal.lock thread).mp holder
      exact ⟨work, guarded.held thread work inside, fun _ => ⟨thread, inside⟩⟩

theorem renoded_guarded (name : String) (system : System) (later : List Sighting)
    (nodes : NameMap Node.Snapshot) (same : nodes.lookup name = none ↔ system.manager.nodes.lookup name = none)
    (grown : Guarded name system later) (made : Faithful name later nodes) :
    Guarded name { system with manager := { system.manager with nodes } } later := by
  have there : Present name { system.manager with nodes } ↔ Present name system.manager := not_congr same
  have fits (work : Work) (fit : Fit name system.manager later work) :
      Fit name { system.manager with nodes } later work := by
    refine ⟨made, fun ready => (fit.present ready).imp_left there.mpr, ?_⟩
    have mindful := fit.mindful
    cases work with
    | passing first restore stage =>
        cases stage with
        | naming outcome => cases outcome <;> exact mindful
        | inserting findings rest =>
            obtain ⟨probed, named, subset, ahead⟩ := mindful
            exact ⟨probed, named, subset, ahead.imp_right there.mpr⟩
        | skipping _ => exact there.mpr mindful
        | flagging _ => exact there.mpr mindful
        | absolving => exact there.mpr mindful
        | readying => exact there.mpr mindful
        | _ => trivial
    | leaving result => cases result <;> exact mindful
    | _ => trivial
  exact ⟨legal_nodes system nodes grown.legal, fun unheld => fits _ (grown.free unheld),
    fun thread work inside => fits _ (grown.held thread work inside)⟩

theorem drop_guarded (name : String) (state : State) (thread : Nat) (other : String)
    (leaves : departing other (state.system.points thread) = true)
    (guarded : Guarded name state.system state.record) :
    Guarded name (state.withNodes (without state.system.manager.nodes other)).system state.record := by
  have same : (without state.system.manager.nodes other).lookup name = state.system.manager.nodes.lookup name := by
    unfold departing at leaves
    split at leaves
    · next first restore findings point =>
        have named := (guarded.held thread _ point).mindful.2.1
        refine lookup_without _ name other ?_
        rintro rfl
        simp [named] at leaves
    · cases leaves
  obtain ⟨_, fit, _⟩ := guarded_fit name state.system state.record guarded
  exact renoded_guarded name state.system state.record _ (by rw [same]) guarded
    fun snapshot known => fit.made snapshot (same.symm.trans known)

-- Of all errands only a recheck changes the nodes, and no errand takes one away.
theorem chore_keeps (name : String) (thread : Nat) (reply : Except PassError Bool) (manager : Manager)
    (record : List Sighting) (chore : Chore) (made : Faithful name record manager.nodes) :
    let look := chore.run reply manager record
    ∃ nodes, look.manager = { manager with nodes } ∧ (nodes.lookup name = none ↔ manager.nodes.lookup name = none) ∧
      Faithful name (signed thread look.signs record) nodes := by
  have unchanged (signs : List Sign) : ∃ nodes, manager = { manager with nodes } ∧
      (nodes.lookup name = none ↔ manager.nodes.lookup name = none) ∧
      Faithful name (signed thread signs record) nodes :=
    ⟨manager.nodes, rfl, Iff.rfl, faithful_signed name thread signs record manager.nodes made⟩
  cases chore with
  | begin errand =>
      cases errand with
      | recheck other =>
          cases known : manager.nodes.lookup other with
          | none =>
              simp only [Chore.run, Errand.run, known]
              exact unchanged _
          | some snapshot =>
              simp only [Chore.run, Errand.run, known]
              exact unchanged _
      | _ => exact unchanged _
  | asking other edition => cases reply <;> exact unchanged _
  | beating other edition supported =>
      by_cases current : editions other record = edition
      · simp only [Chore.run, if_pos current]
        refine ⟨withBeat manager.nodes other supported, rfl, ?_, fun snapshot known => ?_⟩
        · by_cases same : name = other
          · rw [same, lookup_with_beat, Option.map_eq_none_iff]
          · rw [lookup_with_beat_of_ne _ _ _ _ same]
        · by_cases same : name = other
          · subst same
            rw [lookup_with_beat] at known
            obtain ⟨earlier, there, rfl⟩ := Option.map_eq_some_iff.mp known
            obtain ⟨findings, built, probed, member, steady, _⟩ := made earlier there
            refine ⟨findings, built, probed_append findings [_] record probed, member, steady, fun unbeaten => ?_⟩
            exact absurd rfl (unbeaten ⟨thread, .beat name edition supported⟩ (by simp [signed]) edition supported)
          · rw [lookup_with_beat_of_ne _ _ _ _ same] at known
            exact faithful_signed name thread [_] record manager.nodes made snapshot known
      · simp only [Chore.run, if_neg current]
        exact unchanged _
  | _ => exact unchanged _

theorem advance_guarded (name : String) (state : State) (act : Act) (desk : Desk) (sign? : Option Sign)
    (lists : Lists name act.outcome) (guarded : Guarded name state.system state.record) :
    Guarded name (state.advance act desk sign?).system (state.advance act desk sign?).record := by
  have stepped := system_guarded name state.system state.record act.move lists guarded
  rw [advance_record]
  exact guarded_signed name _ act.thread sign?.toList _ stepped

theorem work_guarded (name : String) (state : State) (act : Act) (chore : Chore)
    (guarded : Guarded name state.system state.record) :
    Guarded name (state.work act chore).system (state.work act chore).record := by
  obtain ⟨_, fit, _⟩ := guarded_fit name state.system state.record guarded
  obtain ⟨nodes, changed, same, made⟩ :=
    chore_keeps name act.thread act.reply state.system.manager state.record chore fit.made
  have grown := guarded_signed name state.system act.thread
    (chore.run act.reply state.system.manager state.record).signs state.record guarded
  have renoded := renoded_guarded name state.system _ nodes same grown made
  rw [← changed] at renoded
  exact renoded

def Listing (name : String) (strokes : List Stroke) : Prop :=
  ∀ act, .perform act ∈ strokes → Lists name act.outcome

theorem listing_subset (name : String) (part whole : List Stroke) (subset : part ⊆ whole)
    (lists : Listing name whole) : Listing name part := fun act member => lists act (subset member)

theorem listing_cons (name : String) (stroke : Stroke) (strokes : List Stroke)
    (lists : Listing name (stroke :: strokes)) : Listing name [stroke] ∧ Listing name strokes :=
  ⟨listing_subset name [stroke] _ (by simp) lists,
    listing_subset name strokes _ (List.subset_cons_self stroke strokes) lists⟩

theorem start_guarded (name : String) (options : ProbeOptions) (parallelism : Nat) :
    Guarded name (State.start options parallelism).system (State.start options parallelism).record where
  legal := start_invariant options parallelism
  free _ := ⟨fun _ => nofun, nofun, trivial⟩
  held _ _ inside := nomatch inside

theorem comes_guarded (name : String) (state after : State) (stroke : Stroke) (lists : Listing name [stroke])
    (guarded : Guarded name state.system state.record) (comes : Comes state stroke after) :
    Guarded name after.system after.record := by
  cases comes with
  | advanced act desk sign? _ =>
      exact advance_guarded name state act desk sign? (lists act List.mem_cons_self) guarded
  | worked act chore _ => exact work_guarded name state act chore guarded
  | dropped thread other leaves => exact drop_guarded name state thread other leaves guarded
  | rested thread other => exact guarded

theorem follow_guarded (name : String) (state : State) (strokes : List Stroke) (lists : Listing name strokes)
    (guarded : Guarded name state.system state.record) :
    Guarded name (state.follow strokes).system (state.follow strokes).record := by
  induction strokes generalizing state with
  | nil => exact guarded
  | cons stroke strokes ih =>
      obtain ⟨now, later⟩ := listing_cons name stroke strokes lists
      exact ih (state.stroke stroke) later (comes_guarded name state _ stroke now guarded (stroke_comes state stroke))

end Service

end ClusterCaps
