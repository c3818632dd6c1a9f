import Conformance.Proofs.Files.Resolved
import Conformance.Proofs.Session.Loading
import Mathlib.Tactic.SplitIfs

/-!
# Schemas that are kept

The schema kept for a location is the one that was last loaded from there since all of them were
forgotten. Fetching by any path to the location hands that schema out and reads no file, or else
loads the file as it stands; a load that fails changes nothing, and no load changes what is kept for
other locations.
-/
namespace Conformance.Session

/-! ### What happens to a session -/

/-- What may happen to a session in which schemas are fetched. -/
inductive Happening where
  | fetch (path : FilePath) (mayUseKept : Bool)
  | forget
  /-- The files are written, removed or replaced in any way. -/
  | rearrange (files : FileTree)

/-- What there is to remember of a happening. -/
inductive Memory where
  | fetched (place : Option Location) (mayUseKept : Bool) (result : Except Failure Holding)
  | forgotten
  | rearranged

/-- What happens, and the workspace behind it. -/
def Happening.run (w : Workspace) : Happening → Memory × Workspace
  | .fetch path mayUseKept =>
    let (result, after) := (fetchSchema path mayUseKept).run w
    (.fetched (w.files.resolve path).toOption mayUseKept result, after)
  | .forget => (.forgotten, (forgetSchemas.run w).2)
  | .rearrange files => (.rearranged, { w with files })

/-- The memories of happenings, and the workspace behind them; the latest comes first. -/
def happen (start : Workspace) : List Happening → List Memory × Workspace
  | [] => ([], start)
  | latest :: earlier =>
    let (memories, w) := happen start earlier
    let (memory, after) := latest.run w
    (memory :: memories, after)

/-- The schema that was last loaded from a location since all were forgotten. A fetch loads if it
may not use what is kept, or if nothing was loaded before. -/
def lastLoad (place : Location) : List Memory → Option Holding
  | [] => none
  | .forgotten :: _ => none
  | .rearranged :: earlier => lastLoad place earlier
  | .fetched fetched mayUseKept result :: earlier =>
    let before := lastLoad place earlier
    if fetched = some place ∧ (mayUseKept = false ∨ before = none) then result.toOption.or before
    else before

/-! ### Fetching -/

variable {w : Workspace} {path : FilePath} {place : Location} {holding : Holding}

/-- The workspace in which a schema is kept for a location. -/
def keeping (w : Workspace) (place : Location) (holding : Holding) : Workspace :=
  { w with loaded := (place, holding) :: w.loaded.filter fun entry => entry.1 ≠ place }

theorem kept_keeping (w : Workspace) (place : Location) (holding : Holding) (other : Location) :
    kept (keeping w place holding) other =
      if place = other then some holding else kept w other := by
  rw [kept, keeping, List.find?_cons]
  by_cases same : place = other
  · simp [same]
  · rw [if_neg same, kept, List.find?_filter]
    simp only [same, decide_false]
    congr 2
    funext entry
    by_cases equal : entry.1 = other
    · simp [equal, Ne.symm same]
    · simp [equal]

theorem run_locate (path : FilePath) (w : Workspace) :
    (locate path).run w = ((w.files.resolve path).mapError .circular, w) := rfl

/-- A path that is lost among links leads to no schema. -/
theorem run_fetchSchema_lost {mayUseKept : Bool} {stuck : FilePath}
    (lost : w.files.resolve path = .error stuck) :
    (fetchSchema path mayUseKept).run w = (.error (.circular stuck), w) := by
  have failed : (locate path).run w = (.error (.circular stuck), w) := by
    rw [run_locate, lost]
    rfl
  rw [fetchSchema, run_bind_of_error failed]

/-- A schema that is kept is handed out, and nothing else happens. -/
theorem run_fetchSchema_kept (located : w.files.resolve path = .ok place)
    (held : kept w place = some holding) : (fetchSchema path true).run w = (.ok holding, w) := by
  have found : (locate path).run w = (.ok place, w) := by
    rw [run_locate, located]
    rfl
  rw [fetchSchema, run_bind_of_ok found, run_bind_of_ok (run_look _ w), held, run_pure]

/-- Where no schema may be used the file is loaded, and the schema kept if there is one. -/
theorem run_fetchSchema_load {mayUseKept : Bool} (located : w.files.resolve path = .ok place)
    (missed : mayUseKept = true → kept w place = none) :
    ∃ loaded, w.Grows loaded ∧ (fetchSchema path mayUseKept).run w =
      match w.files.schemaAt (.ofLocation place) with
      | .ok schema => (.ok (Holding.ofCompiled w.serial schema),
          keeping loaded place (Holding.ofCompiled w.serial schema))
      | .error failure => (.error failure, loaded) := by
  have found : (locate path).run w = (.ok place, w) := by
    rw [run_locate, located]
    rfl
  have step : (fetchSchema path mayUseKept).run w =
      (loadSchema (.ofLocation place) >>= fun holding =>
        keep place holding >>= fun _ => pure holding).run w := by
    rw [fetchSchema, run_bind_of_ok found, run_bind_of_ok (run_look _ w)]
    cases mayUseKept with
    | false => rfl
    | true => rw [missed rfl]
  obtain ⟨loaded, load, grows⟩ := run_loadSchema (.ofLocation place) w
  refine ⟨loaded, grows, ?_⟩
  rw [step, run_bind, load]
  cases w.files.schemaAt (.ofLocation place) with
  | ok schema => rfl
  | error failure => rfl

/-! ### What is kept -/

theorem kept_congr {after : Workspace} (same : after.loaded = w.loaded) (place : Location) :
    kept after place = kept w place := by
  rw [kept, kept, same]

/-- One happening more: what was kept before is all that the memories are needed for. -/
theorem kept_run {memories : List Memory} (before : ∀ place, kept w place = lastLoad place memories)
    (happening : Happening) (place : Location) :
    kept (happening.run w).2 place = lastLoad place ((happening.run w).1 :: memories) := by
  cases happening with
  | forget => rfl
  | rearrange files => exact before place
  | fetch path mayUseKept =>
    cases located : w.files.resolve path with
    | error stuck =>
      simp only [Happening.run, run_fetchSchema_lost located, located, lastLoad, before place]
      rw [if_neg]
      rintro ⟨⟨⟩, -⟩
    | ok own =>
      have used := before own
      -- A fetch hands out what is kept for its own location or else loads it; what it remembers is
      -- a load in the second case alone.
      by_cases hit : mayUseKept = true ∧ (kept w own).isSome = true
      · obtain ⟨rfl, present⟩ := hit
        obtain ⟨holding, held⟩ := Option.isSome_iff_exists.mp present
        simp only [Happening.run, run_fetchSchema_kept located held, located, lastLoad,
          before place]
        rw [if_neg]
        rintro ⟨⟨⟩, bypassed | missed⟩
        · cases bypassed
        · rw [used, missed] at held
          cases held
      · have missed : mayUseKept = true → kept w own = none := fun may => by
          simpa using fun present => hit ⟨may, present⟩
        obtain ⟨loaded, grows, run⟩ := run_fetchSchema_load located missed
        rw [used] at missed
        have loads : mayUseKept = false ∨ lastLoad own memories = none := by
          cases mayUseKept with
          | false => exact .inl rfl
          | true => exact .inr (missed rfl)
        simp only [Happening.run, run, located, lastLoad]
        cases w.files.schemaAt (.ofLocation own) with
        | ok schema =>
          simp only [kept_keeping, kept_congr grows.loaded, before place]
          by_cases same : own = place
          · subst same
            rw [if_pos rfl, if_pos ⟨rfl, loads⟩]
            rfl
          · rw [if_neg same, if_neg fun both => same (Option.some.inj both.1)]
        | error failure =>
          simp only [kept_congr grows.loaded, before place]
          split_ifs
          · rfl
          · rfl

/-- What is kept for a location is what was last loaded from it. -/
theorem kept_happen (start : Workspace) (empty : start.loaded = []) (happenings : List Happening)
    (place : Location) :
    kept (happen start happenings).2 place = lastLoad place (happen start happenings).1 := by
  induction happenings generalizing place with
  | nil =>
    rw [happen, kept, empty]
    rfl
  | cons latest earlier ih => exact kept_run ih latest place

/-! ### Fetching what was last loaded -/

/-- What a fetch does after anything that may have happened. However a path to a file is spelled,
its location is where the file stands. -/
theorem fetchSchema_last_load (w : Workspace) (happenings : List Happening) :
    let history := (happen { w with loaded := [] } happenings).1
    let now := (happen { w with loaded := [] } happenings).2
    (∀ place, kept now place = lastLoad place history) ∧
    (∀ path place entry, now.files.Rooted → now.files.follow path = .ok (place, entry) →
      now.files.resolve path = .ok place ∧
        now.files.follow (.ofLocation place) = .ok (place, entry)) ∧
    ∀ (path : FilePath) (mayUseKept : Bool),
      match now.files.resolve path with
      | .error stuck => (fetchSchema path mayUseKept).run now = (.error (.circular stuck), now)
      | .ok place =>
        match if mayUseKept then lastLoad place history else none with
        | some holding =>
          -- Whatever the files hold, they are not read.
          ∀ files : FileTree, files.resolve path = .ok place →
            (fetchSchema path mayUseKept).run { now with files } =
              (.ok holding, { now with files })
        | none =>
          ∃ after, after.files = now.files ∧
            match now.files.schemaAt (.ofLocation place) with
            | .ok schema =>
              (fetchSchema path mayUseKept).run now =
                  (.ok (Holding.ofCompiled now.serial schema), after) ∧
                ∀ other, kept after other =
                  if place = other then some (Holding.ofCompiled now.serial schema)
                  else kept now other
            | .error failure =>
              (fetchSchema path mayUseKept).run now = (.error failure, after) ∧
                after.loaded = now.loaded := by
  intro history now
  have held : ∀ place, kept now place = lastLoad place history :=
    kept_happen { w with loaded := [] } rfl happenings
  refine ⟨held, fun path place entry rooted led => FileTree.resolve_of_follow rooted led,
    fun path mayUseKept => ?_⟩
  split
  next lost => exact run_fetchSchema_lost lost
  next place located =>
    split
    next holding known =>
      intro files same
      split_ifs at known with may
      subst may
      refine run_fetchSchema_kept same ?_
      rw [← known, ← held place]
      rfl
    next unknown =>
      have missed : mayUseKept = true → kept now place = none := fun may => by
        rwa [if_pos may, ← held place] at unknown
      obtain ⟨loaded, grows, run⟩ := run_fetchSchema_load located missed
      rw [run]
      cases now.files.schemaAt (.ofLocation place) with
      | ok schema =>
        refine ⟨keeping loaded place _, grows.files, rfl, fun other => ?_⟩
        rw [kept_keeping, kept_congr grows.loaded]
      | error failure => exact ⟨loaded, grows.files, rfl, grows.loaded⟩

end Conformance.Session
