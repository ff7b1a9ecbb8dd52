import ClusterCaps.Proofs.Protocol.Invariant
import ClusterCaps.Proofs.Service.Record

set_option autoImplicit false

namespace ClusterCaps

namespace Service

open Protocol

structure Recorded (manager : Manager) (record : List Sighting) : Prop where
  cluster : manager.cluster = clusterOf record
  nodes : manager.nodes = nodesOf record
  skipped : manager.skipped = skippedOf record
  opened : manager.phase = .ready → Open record

def Told (record : List Sighting) : Work → Prop
  | .passing _ _ (.naming (.ok findings)) => Probed findings record
  | .passing _ _ (.inserting findings rest) =>
      Probed findings record ∧ ∃ done, findings.snapshots = done ++ rest ∧ Laid done record
  | .passing _ _ (.skipping findings) =>
      Probed findings record ∧ listed? record = some findings ∧ Stocked findings record
  | .passing _ _ (.flagging findings) =>
      Probed findings record ∧ listed? record = some findings ∧ Stocked findings record ∧
        skippedOf record = findings.skipped
  | .passing _ _ .absolving => Open record
  | .passing _ _ .readying => Open record
  | .leaving (.ok _) => Open record
  | _ => True

def Chore.Known (thread : Nat) (record : List Sighting) : Chore → Prop
  | .begin errand => Admitted thread errand record
  | .asking name edition => Fetched thread name edition record
  | .beating name edition supported => Heard thread name edition supported record
  | .replying name supported => ∃ edition, Beaten thread name edition supported record
  | .listing time cluster => SawCluster thread time cluster record
  | .naming time cluster nodes => SawNodes thread time cluster nodes record
  | .closing time cluster nodes pass? => SawPass thread time cluster nodes pass? record

-- The part of the invariant that does not look at errands.
structure Backed (system : System) (record : List Sighting) : Prop where
  legal : Protocol.Invariant system
  recorded : Recorded system.manager record
  told : ∀ thread work, system.points thread = .inside work → Told record work
  sound : Sound record

structure Coherent (state : State) : Prop where
  backed : Backed state.system state.record
  known : ∀ thread chore, state.desks thread = .busy chore → chore.Known thread state.record

def signed (thread : Nat) (signs : List Sign) (record : List Sighting) : List Sighting :=
  signs.map (Sighting.mk thread) ++ record

theorem told_quiet (seen : Sighting) (record : List Sighting) (work : Work) (quiet : seen.sign.renews = false)
    (told : Told record work) : Told (seen :: record) work := by
  have keeps := quiet_keeps seen record quiet
  have opened : Open record → Open (seen :: record) := open_cons seen record (quiet_not_forgot _ quiet)
  cases work with
  | passing first restore stage =>
      cases stage with
      | naming outcome =>
          cases outcome with
          | ok findings => exact probed_cons findings seen record told
          | error _ => trivial
      | inserting findings rest =>
          obtain ⟨probed, done, split, laid⟩ := told
          exact ⟨probed_cons findings seen record probed, done, split, laid_keeps done _ _ keeps laid⟩
      | skipping findings =>
          obtain ⟨probed, listed, stocked⟩ := told
          exact ⟨probed_cons findings seen record probed, keeps.listed.trans listed,
            stocked_keeps findings _ _ keeps stocked⟩
      | flagging findings =>
          obtain ⟨probed, listed, stocked, skipped⟩ := told
          exact ⟨probed_cons findings seen record probed, keeps.listed.trans listed,
            stocked_keeps findings _ _ keeps stocked, keeps.skipped.trans skipped⟩
      | absolving => exact opened told
      | readying => exact opened told
      | _ => trivial
  | leaving result =>
      cases result with
      | ok _ => exact opened told
      | error _ => trivial
  | _ => trivial

theorem known_cons (thread : Nat) (seen : Sighting) (record : List Sighting) (chore : Chore)
    (other : seen.thread ≠ thread) (known : chore.Known thread record) : chore.Known thread (seen :: record) := by
  cases chore with
  | begin errand => exact last_cons thread _ _ seen record other known
  | asking name edition => exact last_cons thread _ _ seen record other known
  | beating name edition supported => exact last_cons thread _ _ seen record other known
  | replying name supported => exact known.imp fun _ beaten => last_cons thread _ _ seen record other beaten
  | listing time cluster => exact last_cons thread _ _ seen record other known
  | naming time cluster nodes => exact last_cons thread _ _ seen record other known
  | closing time cluster nodes pass? => exact last_cons thread _ _ seen record other known

theorem known_signed (thread other : Nat) (signs : List Sign) (record : List Sighting) (chore : Chore)
    (apart : other ≠ thread) (known : chore.Known other record) : chore.Known other (signed thread signs record) := by
  induction signs with
  | nil => exact known
  | cons sign signs ih => exact known_cons other ⟨thread, sign⟩ _ chore (fun same => apart same.symm) ih

theorem recorded_quiet (manager : Manager) (seen : Sighting) (record : List Sighting)
    (nodes : NameMap Node.Snapshot) (quiet : seen.sign.renews = false) (stored : nodes = nodesOf (seen :: record))
    (recorded : Recorded manager record) : Recorded { manager with nodes } (seen :: record) := by
  have keeps := quiet_keeps seen record quiet
  refine ⟨?_, stored, recorded.skipped.trans keeps.skipped.symm, fun ready => ?_⟩
  · rw [clusterOf, keeps.published]
    exact recorded.cluster
  · exact open_cons seen record (quiet_not_forgot _ quiet) (recorded.opened ready)

theorem stage_signed (move : Move) (manager : Manager) (history : List Event) (record : List Sighting)
    (first : Bool) (restore : Phase) (stage : Stage) (kept : Kept (.passing first restore stage) manager history)
    (recorded : Recorded manager record) (told : Told record (.passing first restore stage)) (sound : Sound record) :
    let effect := stage.run move manager first restore
    let later := signed move.thread (workSign? move.outcome (.passing first restore stage)).toList record
    Recorded effect.manager later ∧ Told later (effect.next?.getD .parting) ∧ Sound later := by
  obtain ⟨cluster, nodes, skipped, opened⟩ := recorded
  cases stage with
  | starting =>
      have same : manager.during restore = { manager with phase := (manager.during restore).phase } :=
        manager.during_eq restore
      refine ⟨?_, trivial, sound⟩
      change Recorded (manager.during restore) record
      refine ⟨?_, ?_, ?_, fun ready => ?_⟩
      · rw [same]
        exact cluster
      · rw [same]
        exact nodes
      · rw [same]
        exact skipped
      · rw [manager.during_ready restore ready] at ready
        exact opened ready
  | running =>
      refine ⟨?_, ?_, trivial, sound⟩
      · exact recorded_quiet manager ⟨move.thread, .probed move.outcome⟩ record manager.nodes rfl nodes
          ⟨cluster, nodes, skipped, opened⟩
      · change Told (⟨move.thread, .probed move.outcome⟩ :: record) (.passing first restore (.naming move.outcome))
        cases move.outcome with
        | ok findings => exact ⟨move.thread, List.mem_cons_self⟩
        | error error => trivial
  | naming outcome =>
      cases outcome with
      | error error => exact ⟨⟨cluster, nodes, skipped, opened⟩, trivial, sound⟩
      | ok findings =>
          exact ⟨⟨cluster, nodes, skipped, opened⟩, ⟨told, [], rfl, fun _ _ none => nomatch none⟩, sound⟩
  | restoring error =>
      refine ⟨⟨cluster, nodes, skipped, fun (ready : restore = .ready) => opened ?_⟩, trivial, sound⟩
      exact kept.phase.trans (if_pos ready)
  | blaming error => exact ⟨⟨cluster, nodes, skipped, opened⟩, trivial, sound⟩
  | inserting findings rest =>
      obtain ⟨probed, done, split, laid⟩ := told
      cases rest with
      | nil =>
          rw [List.append_nil] at split
          rw [← split] at laid
          refine ⟨⟨cluster, congrArg _ nodes, skipped, fun ready => ?_⟩, ?_, ⟨probed, laid⟩, sound⟩
          · exact open_cons _ record nofun (opened ready)
          · exact ⟨probed_cons findings _ record probed, rfl, laid_stocked findings move.thread record laid⟩
      | cons entry rest =>
          obtain ⟨name, snapshot⟩ := entry
          have member : (name, snapshot) ∈ findings.snapshots := by
            rw [split]
            exact List.mem_append_right done List.mem_cons_self
          refine ⟨⟨cluster, congrArg _ nodes, skipped, fun ready => ?_⟩, ?_, ⟨findings, probed, member⟩, sound⟩
          · exact open_cons _ record nofun (opened ready)
          · refine ⟨probed_cons findings _ record probed, done ++ [(name, snapshot)], ?_, ?_⟩
            · rw [split, List.append_assoc, List.singleton_append]
            · exact laid_placed done move.thread name snapshot record laid
  | skipping findings =>
      obtain ⟨probed, listed, stocked⟩ := told
      refine ⟨⟨cluster, nodes, rfl, fun ready => open_cons _ record nofun (opened ready)⟩, ?_, probed, sound⟩
      exact ⟨probed_cons findings _ record probed, listed, stocked, rfl⟩
  | flagging findings =>
      obtain ⟨probed, listed, stocked, omitted⟩ := told
      have known : listed? record ≠ none := by
        rw [listed]
        exact Option.some_ne_none findings
      refine ⟨⟨rfl, nodes, skipped, fun ready => open_cons _ record nofun (opened ready)⟩, ?_, ?_, sound⟩
      · exact ⟨Or.inl nofun, Or.inl known⟩
      · exact ⟨probed, stocked, omitted⟩
  | absolving => exact ⟨⟨cluster, nodes, skipped, opened⟩, told, sound⟩
  | readying => exact ⟨⟨cluster, nodes, skipped, fun _ => told⟩, trivial, sound⟩
  | counting outcome =>
      refine ⟨⟨cluster, nodes, skipped, opened⟩, ?_, sound⟩
      change Told record (Work.afterPass first outcome)
      cases outcome with
      | error error => cases first <;> trivial
      | ok _ =>
          cases first with
          | true => exact opened kept.phase
          | false => trivial

theorem wipe_signed (move : Move) (manager : Manager) (record : List Sighting) (wipe : Wipe)
    (recorded : Recorded manager record) (sound : Sound record) :
    let effect := wipe.run manager
    let later := signed move.thread (workSign? move.outcome (.clearing wipe)).toList record
    Recorded effect.manager later ∧ Told later (effect.next?.getD .parting) ∧ Sound later := by
  obtain ⟨cluster, nodes, skipped, opened⟩ := recorded
  cases wipe with
  | nodes =>
      exact ⟨⟨cluster, rfl, skipped, fun ready => open_cons _ record nofun (opened ready)⟩, trivial, trivial, sound⟩
  | skipped =>
      exact ⟨⟨cluster, nodes, rfl, fun ready => open_cons _ record nofun (opened ready)⟩, trivial, trivial, sound⟩
  | cluster =>
      exact ⟨⟨rfl, nodes, skipped, fun ready => open_cons _ record nofun (opened ready)⟩, trivial, trivial, sound⟩
  | error => exact ⟨⟨cluster, nodes, skipped, opened⟩, trivial, sound⟩
  | phase => exact ⟨⟨cluster, nodes, skipped, nofun⟩, trivial, trivial, sound⟩

theorem work_signed (move : Move) (manager : Manager) (history : List Event) (record : List Sighting) (work : Work)
    (kept : Kept work manager history) (recorded : Recorded manager record) (told : Told record work)
    (sound : Sound record) :
    let effect := work.run move manager
    let later := signed move.thread (workSign? move.outcome work).toList record
    Recorded effect.manager later ∧ Told later (effect.next?.getD .parting) ∧ Sound later := by
  cases work with
  | passing first restore stage =>
      exact stage_signed move manager history record first restore stage kept recorded told sound
  | clearing wipe => exact wipe_signed move manager record wipe recorded sound
  | holding seen =>
      refine ⟨recorded, ?_, sound⟩
      by_cases ready : manager.phase = .ready
      · simp only [Work.run, if_pos ready]
        exact recorded.opened ready
      · simp only [Work.run, if_neg ready]
        trivial
  | comparing seen =>
      refine ⟨recorded, ?_, sound⟩
      by_cases same : manager.passes = seen
      · simp only [Work.run, if_pos same]
        trivial
      · simp only [Work.run, if_neg same]
        trivial
  | sharing seen =>
      refine ⟨recorded, ?_, sound⟩
      cases shared : manager.lastError? with
      | some error =>
          simp only [Work.run, shared]
          trivial
      | none =>
          simp only [Work.run, shared]
          trivial
  | choosing => exact ⟨recorded, trivial, sound⟩
  | leaving result => exact ⟨recorded, trivial, sound⟩
  | looking => exact ⟨recorded, trivial, sound⟩
  | parting => exact ⟨recorded, trivial, sound⟩

-- A thread outside the lock leaves the manager alone, and comes inside only to begin.
theorem outside_frames (system : System) (move : Move) (legal : Protocol.Invariant system)
    (outside : (system.points move.thread).Outside) :
    (system.step move).manager = system.manager ∧
      ∀ thread work, (system.step move).points thread = .inside work →
        system.points thread = .inside work ∨ work.Opens := by
  have placed : ∀ (before : System) (point : Point) (mark? : Option Mark), before.points = system.points →
      (∀ work, point = .inside work → work.Opens) → ∀ thread work,
        (before.place move.thread point mark?).points thread = .inside work →
          system.points thread = .inside work ∨ work.Opens := by
    intro before point mark? same opens thread work inside
    by_cases own : thread = move.thread
    · rw [own, place_same] at inside
      exact Or.inr (opens work inside)
    · rw [place_other _ _ _ _ _ own, same] at inside
      exact Or.inl inside
  have known := legal.placed move.thread
  unfold System.step
  cases point : system.points move.thread with
  | inside work =>
      rw [point] at outside
      exact False.elim outside
  | idle =>
      cases move.ask with
      | ensure => exact ⟨rfl, placed system .entered _ rfl fun _ same => nomatch same⟩
      | refresh => exact ⟨rfl, placed system (.wanting .choosing) _ rfl fun _ same => nomatch same⟩
      | reset => exact ⟨rfl, placed system (.wanting (.clearing .nodes)) _ rfl fun _ same => nomatch same⟩
  | entered => exact ⟨rfl, placed system (.noted system.manager.passes) _ rfl fun _ same => nomatch same⟩
  | noted seen =>
      by_cases ready : system.manager.phase = .ready
      · simp only [if_pos ready]
        exact ⟨rfl, placed system .idle _ rfl fun _ same => nomatch same⟩
      · simp only [if_neg ready]
        exact ⟨rfl, placed system (.wanting (.holding seen)) _ rfl fun _ same => nomatch same⟩
  | wanting work =>
      rw [point] at known
      cases system.holder? with
      | some holder => exact ⟨rfl, fun _ _ inside => Or.inl inside⟩
      | none =>
          refine ⟨rfl, placed _ (.inside work) none rfl ?_⟩
          rintro other same
          cases same
          exact known.1

theorem inside_frames (system : System) (move : Move) (work : Work) (legal : Protocol.Invariant system)
    (point : system.points move.thread = .inside work) :
    let effect := work.run move system.manager
    (system.step move).manager = effect.manager ∧
      ∀ thread other, (system.step move).points thread = .inside other → effect.next? = some other := by
  have holds := (legal.lock move.thread).mpr ⟨work, point⟩
  have alone : ∀ thread other, thread ≠ move.thread → system.points thread ≠ .inside other :=
    fun thread other apart inside => apart (held_alone system move.thread thread other legal holds inside)
  unfold System.step
  rw [point]
  dsimp only
  cases ended : (work.run move system.manager).next? with
  | none =>
      refine ⟨rfl, fun thread other inside => ?_⟩
      by_cases own : thread = move.thread
      · rw [own, place_same] at inside
        cases inside
      · rw [place_other _ _ _ _ _ own] at inside
        exact absurd inside (alone thread other own)
  | some next =>
      refine ⟨rfl, fun thread other inside => ?_⟩
      by_cases own : thread = move.thread
      · rw [own, place_same] at inside
        cases inside
        rfl
      · rw [place_other _ _ _ _ _ own] at inside
        exact absurd inside (alone thread other own)

theorem opens_told (record : List Sighting) (work : Work) (opens : work.Opens) : Told record work := by
  cases work with
  | holding seen => trivial
  | choosing => trivial
  | clearing wipe => trivial
  | _ => exact False.elim opens

theorem point_sign_outside (outcome : Except PassError Findings) (point : Point) (outside : point.Outside) :
    pointSign? outcome point = none := by
  cases point with
  | inside work => exact False.elim outside
  | _ => rfl

theorem system_backed (system : System) (record : List Sighting) (move : Move) (backed : Backed system record) :
    Backed (system.step move)
      (signed move.thread (pointSign? move.outcome (system.points move.thread)).toList record) := by
  have legal := step_invariant system move backed.legal
  by_cases outside : (system.points move.thread).Outside
  · rw [point_sign_outside move.outcome _ outside]
    obtain ⟨same, opened⟩ := outside_frames system move backed.legal outside
    refine ⟨legal, ?_, fun thread work inside => ?_, backed.sound⟩
    · rw [same]
      exact backed.recorded
    · rcases opened thread work inside with before | opens
      · exact backed.told thread work before
      · exact opens_told record work opens
  · cases point : system.points move.thread with
    | inside work =>
        obtain ⟨recorded, told, sound⟩ := work_signed move system.manager system.history record work
          (backed.legal.held move.thread work point) backed.recorded (backed.told move.thread work point) backed.sound
        obtain ⟨same, only⟩ := inside_frames system move work backed.legal point
        refine ⟨legal, ?_, fun thread other inside => ?_, sound⟩
        · rw [same]
          exact recorded
        · rw [only thread other inside] at told
          exact told
    | _ =>
        rw [point] at outside
        exact absurd trivial outside

theorem legal_nodes (system : System) (nodes : NameMap Node.Snapshot) (legal : Protocol.Invariant system) :
    Protocol.Invariant { system with manager := { system.manager with nodes } } where
  lock := legal.lock
  free unheld := ⟨(legal.free unheld).passes, (legal.free unheld).phase, (legal.free unheld).error⟩
  held thread work inside :=
    have kept := legal.held thread work inside
    ⟨kept.passes, kept.phase, kept.error⟩
  placed := legal.placed
  lawful := legal.lawful

theorem backed_quiet (system : System) (seen : Sighting) (record : List Sighting) (nodes : NameMap Node.Snapshot)
    (quiet : seen.sign.renews = false) (stored : nodes = nodesOf (seen :: record)) (sound : seen.Sound record)
    (backed : Backed system record) :
    Backed { system with manager := { system.manager with nodes } } (seen :: record) where
  legal := legal_nodes system nodes backed.legal
  recorded := recorded_quiet system.manager seen record nodes quiet stored backed.recorded
  told thread work inside := told_quiet seen record work quiet (backed.told thread work inside)
  sound := ⟨sound, backed.sound⟩

theorem errand_backed (thread : Nat) (system : System) (record : List Sighting) (errand : Errand)
    (backed : Backed system record) (admitted : Admitted thread errand record) :
    let look := errand.run system.manager record
    let later := signed thread look.signs record
    Backed { system with manager := look.manager } later ∧
      ∀ next, look.desk = .busy next → next.Known thread later := by
  have nodes := backed.recorded.nodes
  have cluster := backed.recorded.cluster
  cases errand with
  | flag read =>
      refine ⟨backed_quiet system _ record system.manager.nodes rfl nodes ?_ backed, fun _ same => nomatch same⟩
      exact ⟨admitted, by rw [cluster]⟩
  | capabilities =>
      refine ⟨backed_quiet system _ record system.manager.nodes rfl nodes ?_ backed, fun _ same => nomatch same⟩
      exact ⟨admitted, by rw [cluster]⟩
  | node name =>
      refine ⟨backed_quiet system _ record system.manager.nodes rfl nodes ?_ backed, fun _ same => nomatch same⟩
      exact ⟨admitted, by rw [nodes]⟩
  | recheck name =>
      cases known : system.manager.nodes.lookup name with
      | none =>
          simp only [Errand.run, known]
          refine ⟨backed_quiet system _ record system.manager.nodes rfl nodes ?_ backed, fun _ same => nomatch same⟩
          exact fun _ same => nomatch same
      | some snapshot =>
          simp only [Errand.run, known]
          refine ⟨backed_quiet system _ record system.manager.nodes rfl nodes trivial backed, ?_⟩
          rintro next same
          cases same
          refine last_now thread _ _ record ⟨rfl, ?_⟩
          rw [← nodes, known]
          exact Option.some_ne_none snapshot
  | report time =>
      refine ⟨backed_quiet system _ record system.manager.nodes rfl nodes trivial backed, ?_⟩
      rintro next same
      cases same
      exact last_now thread _ _ record ⟨cluster, admitted⟩

theorem chore_backed (thread : Nat) (reply : Except PassError Bool) (system : System) (record : List Sighting)
    (chore : Chore) (backed : Backed system record) (known : chore.Known thread record) :
    let look := chore.run reply system.manager record
    let later := signed thread look.signs record
    Backed { system with manager := look.manager } later ∧
      ∀ next, look.desk = .busy next → next.Known thread later := by
  have nodes := backed.recorded.nodes
  cases chore with
  | begin errand => exact errand_backed thread system record errand backed known
  | asking name edition =>
      cases reply with
      | error error =>
          refine ⟨backed_quiet system _ record system.manager.nodes rfl nodes ?_ backed, fun _ same => nomatch same⟩
          exact fun _ same => nomatch same
      | ok supported =>
          refine ⟨backed_quiet system _ record system.manager.nodes rfl nodes trivial backed, ?_⟩
          rintro next same
          cases same
          exact last_now thread _ _ record known
  | beating name edition supported =>
      let beaten := if editions name record = edition then withBeat system.manager.nodes name supported
        else system.manager.nodes
      have stored : beaten = nodesOf (⟨thread, .beat name edition supported⟩ :: record) := by
        simp only [beaten, nodes]
        rfl
      refine ⟨backed_quiet system _ record beaten rfl stored known backed, ?_⟩
      rintro next same
      cases same
      exact ⟨edition, last_now thread _ _ record known⟩
  | replying name supported =>
      obtain ⟨edition, beaten⟩ := known
      refine ⟨backed_quiet system _ record system.manager.nodes rfl nodes ?_ backed, fun _ same => nomatch same⟩
      rintro answer same
      cases same
      exact ⟨edition, supported, rfl, beaten⟩
  | listing time cluster =>
      refine ⟨backed_quiet system _ record system.manager.nodes rfl nodes trivial backed, ?_⟩
      rintro next same
      cases same
      exact last_now thread _ _ record ⟨nodes, known⟩
  | naming time cluster seen =>
      refine ⟨backed_quiet system _ record system.manager.nodes rfl nodes trivial backed, ?_⟩
      rintro next same
      cases same
      exact last_now thread _ _ record known
  | closing time cluster seen pass? =>
      refine ⟨backed_quiet system _ record system.manager.nodes rfl nodes ?_ backed, fun _ same => nomatch same⟩
      exact ⟨{ system.manager with cluster, nodes := seen, lastPass? := pass? }, known, backed.recorded.skipped, rfl⟩

theorem seat_coherent (state : State) (system : System) (thread : Nat) (desk : Desk) (signs : List Sign)
    (coherent : Coherent state) (backed : Backed system (signed thread signs state.record))
    (known : ∀ chore, desk = .busy chore → chore.Known thread (signed thread signs state.record)) :
    Coherent ({ state with system }.seat thread desk signs) := by
  refine ⟨backed, fun other chore busy => ?_⟩
  change (if other = thread then desk else state.desks other) = .busy chore at busy
  by_cases same : other = thread
  · rw [if_pos same] at busy
    rw [same]
    exact known chore busy
  · rw [if_neg same] at busy
    exact known_signed thread other signs state.record chore same (coherent.known other chore busy)

theorem advance_coherent (state : State) (act : Act) (desk : Desk) (coherent : Coherent state)
    (free : ∀ chore, desk ≠ .busy chore) : Coherent (state.advance act desk none) := by
  refine seat_coherent state _ act.thread desk _ coherent ?_ fun chore busy => absurd busy (free chore)
  exact system_backed state.system state.record act.move coherent.backed

-- Where `ensure` returns without an error, the record is open; and its return leaves no store on record.
theorem gate_opened (system : System) (record : List Sighting) (thread : Nat) (backed : Backed system record)
    (passed : gate? system.manager (system.points thread) = some (.ok ())) : Open record := by
  cases point : system.points thread with
  | noted seen =>
      rw [point] at passed
      by_cases ready : system.manager.phase = .ready
      · exact backed.recorded.opened ready
      · rw [gate?, if_neg ready] at passed
        cases passed
  | inside work =>
      rw [point] at passed
      cases work with
      | leaving result =>
          cases passed
          exact backed.told thread _ point
      | _ => cases passed
  | _ =>
      rw [point] at passed
      cases passed

theorem gate_signless (manager : Manager) (point : Point) (result : Except PassError Unit)
    (outcome : Except PassError Findings) (passed : gate? manager point = some result) :
    pointSign? outcome point = none := by
  cases point with
  | inside work =>
      cases work with
      | leaving _ => rfl
      | _ => cases passed
  | _ => rfl

theorem return_coherent (state : State) (act : Act) (desk : Desk) (sign : Sign) (result : Except PassError Unit)
    (coherent : Coherent state)
    (passed : gate? state.system.manager (state.system.points act.thread) = some result)
    (quiet : sign.renews = false) (stored : ∀ earlier nodes, sign.shelve earlier nodes = nodes)
    (sound : Sighting.Sound ⟨act.thread, sign⟩ state.record)
    (known : ∀ chore, desk = .busy chore → chore.Known act.thread (⟨act.thread, sign⟩ :: state.record)) :
    Coherent (state.advance act desk (some sign)) := by
  have stepped := system_backed state.system state.record act.move coherent.backed
  have signless := gate_signless _ _ _ act.outcome passed
  have moved : pointSign? act.move.outcome (state.system.points act.move.thread) = none := signless
  rw [moved] at stepped
  unfold State.advance
  rw [signless]
  refine seat_coherent state _ act.thread desk _ coherent ?_ known
  refine backed_quiet _ ⟨act.thread, sign⟩ _ _ quiet ?_ sound stepped
  exact stepped.recorded.nodes.trans (stored state.record (nodesOf state.record)).symm

theorem step_coherent (state : State) (act : Act) (coherent : Coherent state) : Coherent (state.step act) := by
  unfold State.step
  cases desk : state.desks act.thread with
  | away =>
      refine advance_coherent state act _ coherent fun chore => ?_
      cases state.system.points act.thread <;> cases act.wish <;> exact nofun
  | waiting errand =>
      dsimp only
      cases passed : gate? state.system.manager (state.system.points act.thread) with
      | none => exact advance_coherent state act (.waiting errand) coherent fun _ => nofun
      | some result =>
          cases result with
          | ok _ =>
              refine return_coherent state act _ _ _ coherent passed rfl (fun _ _ => rfl) trivial ?_
              rintro chore same
              cases same
              exact last_now _ _ _ _ (gate_opened state.system state.record act.thread coherent.backed passed)
          | error error =>
              exact return_coherent state act _ _ _ coherent passed rfl (fun _ _ => rfl) trivial fun _ same => nomatch same
  | busy chore =>
      obtain ⟨backed, known⟩ := chore_backed act.thread act.reply state.system state.record chore coherent.backed
        (coherent.known act.thread chore desk)
      exact seat_coherent state _ act.thread _ _ coherent backed known

theorem start_coherent (options : ProbeOptions) (parallelism : Nat) : Coherent (State.start options parallelism) where
  backed :=
    { legal := start_invariant options parallelism
      recorded := ⟨rfl, rfl, rfl, nofun⟩
      told := fun _ _ inside => nomatch inside
      sound := trivial }
  known _ _ busy := nomatch busy

theorem after_coherent (state : State) (schedule : List Act) (coherent : Coherent state) :
    Coherent (state.after schedule) := by
  induction schedule generalizing state with
  | nil => exact coherent
  | cons act schedule ih => exact ih (state.step act) (step_coherent state act coherent)

theorem run_sound (options : ProbeOptions) (parallelism : Nat) (schedule : List Act) :
    Sound ((State.start options parallelism).after schedule).record :=
  (after_coherent _ schedule (start_coherent options parallelism)).backed.sound

end Service

end ClusterCaps
