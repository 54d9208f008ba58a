/-
# The first candidate among the calls of a program

What a program is rewritten for can be said on the list of its calls alone. A
call is a candidate if it registers a router that has a module path, stands in a
statement of its own function, and has a unit that is a script; the unit depends
on the models that the calls before it register. The search for the first
candidate goes through the list once; the calls before it say which models and
which failures there are by then.

Key definitions: `Job.unitFor`, `Job.modelsOf`, `Job.failuresOf`, `Hit`,
`Job.IsCandidate`, `Job.NoCandidate`, `Job.IsFirstCandidate`, `Job.firstHit`.
Key theorems: `Job.hit?_eq_some_iff`, `Job.firstHit_append`,
`Job.firstHit_eq_none_iff`, `Job.firstHit_nil_eq_some_iff`,
`Job.noCandidate_of_forall`, `Job.failuresOf_eq_nil`.
-/
import HotReload.Proofs.Site

namespace HotReload

/-- A call that a statement is rewritten for: the calls visited before it, the
application, the path of its router, and the unit as a statement of the
program. -/
structure Hit where
  before : List Site
  site : Site
  app : Ident
  router : String
  unit : Tree Node
deriving DecidableEq

namespace Job

variable (job : Job)

/-- The hot-reload unit for a router where the given models are registered. -/
def unitFor (app : Ident) (router : String) (models : List String) : HotUnit :=
  ⟨app.name, router, job.options.container, models, job.options.reloadsModels⟩

/-- The model that a call registers, if it is the registration of a model that
has a module path. -/
def model? (site : Site) : Option String :=
  match job.scope.callRole site.call with
  | .model _ => job.scope.modulePath? site.call
  | _ => none

/-- The models that calls register, in order and with repetitions. -/
def modelsOf (sites : List Site) : List String := sites.filterMap job.model?

/-- What goes wrong at a call that is visited after the calls `before`: the
registration of a router has no module path, or it stands in a statement of its
function and its unit is no script. -/
def failure? (before : List Site) (site : Site) : Option Failure :=
  match job.scope.callRole site.call with
  | .router app =>
    match job.scope.modulePath? site.call with
    | none => some (.unresolvedRouter job.file)
    | some router =>
      if site.trail.StandsInStatement then
        match (job.unitFor app router (job.modelsOf before)).adopted app with
        | .ok _ => none
        | .error fault => some (.unparsableUnit job.file fault.describe)
      else none
  | _ => none

/-- What goes wrong at the given calls, in order, after the calls `before`. -/
def failuresOf : List Site → List Site → List Failure
  | _, [] => []
  | before, site :: sites =>
    (job.failure? before site).toList ++ failuresOf (before ++ [site]) sites

/-- The call is a candidate: it registers the router `hit.router` of `hit.app`,
stands in a statement of its own function, and its unit, read as a script, is
the statement `hit.unit`. -/
structure IsCandidate (hit : Hit) : Prop where
  role : job.scope.callRole hit.site.call = .router hit.app
  path : job.scope.modulePath? hit.site.call = some hit.router
  stands : hit.site.trail.StandsInStatement
  parses : (job.unitFor hit.app hit.router (job.modelsOf hit.before)).adopted hit.app = .ok hit.unit

/-- No call of the list is a candidate, where the calls `before` are visited
first. -/
def NoCandidate (before sites : List Site) : Prop :=
  ∀ earlier site later, sites = earlier ++ site :: later →
    ∀ app router unit, ¬ job.IsCandidate ⟨before ++ earlier, site, app, router, unit⟩

/-- The hit is the first candidate of the list, and the calls before it are those
visited before it. -/
structure IsFirstCandidate (sites : List Site) (hit : Hit) : Prop where
  split : ∃ later, sites = hit.before ++ hit.site :: later
  candidate : job.IsCandidate hit
  first : job.NoCandidate [] hit.before

/-- The call as one that a statement is rewritten for, if it is a candidate. -/
def hit? (before : List Site) (site : Site) : Option Hit :=
  match job.scope.callRole site.call, job.scope.modulePath? site.call with
  | .router app, some router =>
    if site.trail.StandsInStatement then
      match (job.unitFor app router (job.modelsOf before)).adopted app with
      | .ok unit => some ⟨before, site, app, router, unit⟩
      | .error _ => none
    else none
  | _, _ => none

/-- The first candidate of the list, where the calls `before` are visited
first. -/
def firstHit : List Site → List Site → Option Hit
  | _, [] => none
  | before, site :: sites =>
    match job.hit? before site with
    | some hit => some hit
    | none => firstHit (before ++ [site]) sites

variable {job}

@[simp] theorem modelsOf_nil : job.modelsOf [] = [] := rfl

@[simp] theorem modelsOf_append (sites more : List Site) :
    job.modelsOf (sites ++ more) = job.modelsOf sites ++ job.modelsOf more :=
  List.filterMap_append

theorem modelsOf_singleton (site : Site) : job.modelsOf [site] = (job.model? site).toList := by
  cases h : job.model? site <;> simp [modelsOf, h]

theorem failuresOf_append (before sites more : List Site) :
    job.failuresOf before (sites ++ more) =
      job.failuresOf before sites ++ job.failuresOf (before ++ sites) more := by
  induction sites generalizing before with
  | nil => simp [failuresOf]
  | cons site sites ih => simp [failuresOf, ih]

theorem failuresOf_singleton (before : List Site) (site : Site) :
    job.failuresOf before [site] = (job.failure? before site).toList := by
  simp [failuresOf]

/-- A hit is a candidate, and every candidate is one. -/
theorem hit?_eq_some_iff {before : List Site} {site : Site} {hit : Hit} :
    job.hit? before site = some hit ↔
      hit.before = before ∧ hit.site = site ∧ job.IsCandidate hit := by
  constructor
  · intro h
    unfold hit? at h
    split at h
    · rename_i app router hrole hpath
      split at h
      · rename_i hstands
        split at h
        · rename_i unit hparses
          obtain rfl := Option.some.inj h
          exact ⟨rfl, rfl, hrole, hpath, hstands, hparses⟩
        · cases h
      · cases h
    · cases h
  · rintro ⟨rfl, rfl, hc⟩
    simp only [hit?, hc.role, hc.path, if_pos hc.stands, hc.parses]

theorem hit?_eq_none_iff {before : List Site} {site : Site} :
    job.hit? before site = none ↔
      ∀ app router unit, ¬ job.IsCandidate ⟨before, site, app, router, unit⟩ := by
  rw [Option.eq_none_iff_forall_ne_some]
  constructor
  · exact fun h app router unit hc => h _ (hit?_eq_some_iff.mpr ⟨rfl, rfl, hc⟩)
  · rintro h ⟨before', site', app, router, unit⟩ hhit
    obtain ⟨rfl, rfl, hc⟩ := hit?_eq_some_iff.mp hhit
    exact h app router unit hc

theorem firstHit_append (before sites more : List Site) :
    job.firstHit before (sites ++ more) =
      (job.firstHit before sites).or (job.firstHit (before ++ sites) more) := by
  induction sites generalizing before with
  | nil => simp [firstHit]
  | cons site sites ih =>
    cases h : job.hit? before site with
    | some hit => simp [firstHit, h]
    | none => simp [firstHit, h, ih]

/-- There is no hit exactly if no call is a candidate. -/
theorem firstHit_eq_none_iff {before sites : List Site} :
    job.firstHit before sites = none ↔ job.NoCandidate before sites := by
  induction sites generalizing before with
  | nil =>
    refine ⟨fun _ earlier site later h => ?_, fun _ => rfl⟩
    simp at h
  | cons site sites ih =>
    have hstep : job.firstHit before (site :: sites) = none ↔
        job.hit? before site = none ∧ job.firstHit (before ++ [site]) sites = none := by
      cases h : job.hit? before site <;> simp [firstHit, h]
    rw [hstep, ih, hit?_eq_none_iff]
    constructor
    · rintro ⟨hsite, hsites⟩ earlier site' later h
      rcases earlier with _ | ⟨first, earlier⟩
      · obtain ⟨rfl, -⟩ : site = site' ∧ sites = later := by simpa using h
        simpa using hsite
      · obtain ⟨rfl, hrest⟩ : site = first ∧ sites = earlier ++ site' :: later := by simpa using h
        simpa using hsites earlier site' later hrest
    · intro h
      refine ⟨by simpa using h [] site sites rfl, fun earlier site' later hs => ?_⟩
      simpa using h (site :: earlier) site' later (by simp [hs])

/-- The hit is the first candidate, with what was visited before it. -/
theorem firstHit_eq_some_iff {before sites : List Site} {hit : Hit} :
    job.firstHit before sites = some hit ↔
      ∃ earlier later, sites = earlier ++ hit.site :: later ∧ hit.before = before ++ earlier ∧
        job.IsCandidate hit ∧ job.NoCandidate before earlier := by
  constructor
  · intro h
    induction sites generalizing before with
    | nil => cases h
    | cons site sites ih =>
      cases hsite : job.hit? before site with
      | some hit' =>
        obtain rfl : hit' = hit := by simpa [firstHit, hsite] using h
        obtain ⟨hbefore, rfl, hc⟩ := hit?_eq_some_iff.mp hsite
        exact ⟨[], sites, rfl, by simpa using hbefore, hc, firstHit_eq_none_iff.mp rfl⟩
      | none =>
        obtain ⟨earlier, later, rfl, hbefore, hc, hno⟩ := ih (by simpa [firstHit, hsite] using h)
        refine ⟨site :: earlier, later, rfl, by simpa using hbefore, hc, ?_⟩
        rw [← firstHit_eq_none_iff] at hno ⊢
        simpa [firstHit, hsite] using hno
  · rintro ⟨earlier, later, rfl, hbefore, hc, hno⟩
    have hhit := hit?_eq_some_iff.mpr ⟨hbefore, rfl, hc⟩
    rw [firstHit_append, firstHit_eq_none_iff.mpr hno]
    simp [firstHit, hhit]

/-- The hit of a search from the start is the first candidate. -/
theorem firstHit_nil_eq_some_iff {sites : List Site} {hit : Hit} :
    job.firstHit [] sites = some hit ↔ job.IsFirstCandidate sites hit := by
  rw [firstHit_eq_some_iff]
  constructor
  · rintro ⟨earlier, later, hsites, hbefore, hc, hno⟩
    obtain rfl : hit.before = earlier := by simpa using hbefore
    exact ⟨⟨later, hsites⟩, hc, hno⟩
  · rintro ⟨⟨later, hsites⟩, hc, hno⟩
    exact ⟨hit.before, later, hsites, rfl, hc, hno⟩

/-- Calls without a router, or without a path for it, are no candidates. -/
theorem noCandidate_of_forall {before sites : List Site}
    (h : ∀ site ∈ sites, ∀ app, job.scope.callRole site.call = .router app →
      job.scope.modulePath? site.call = none) : job.NoCandidate before sites := by
  rintro earlier site later rfl app router unit hcandidate
  have hnone := h site (by simp) app hcandidate.role
  rw [hcandidate.path] at hnone
  cases hnone

/-- Nothing goes wrong at calls that register no router. -/
theorem failuresOf_eq_nil {before sites : List Site}
    (h : ∀ site ∈ sites, ∀ app, job.scope.callRole site.call ≠ .router app) :
    job.failuresOf before sites = [] := by
  induction sites generalizing before with
  | nil => rfl
  | cons site sites ih =>
    have hfailure : job.failure? before site = none := by
      unfold failure?
      split
      · rename_i app hrole
        exact absurd hrole (h site (by simp) app)
      · rfl
    rw [failuresOf, hfailure, ih fun other hother => h other (by simp [hother])]
    rfl

/-- The hit of a list is one of its calls. -/
theorem mem_of_firstHit {before sites : List Site} {hit : Hit}
    (h : job.firstHit before sites = some hit) : hit.site ∈ sites := by
  obtain ⟨earlier, later, rfl, -⟩ := firstHit_eq_some_iff.mp h
  simp

/-- The first candidate is one of the calls. -/
theorem IsFirstCandidate.site_mem {sites : List Site} {hit : Hit}
    (h : job.IsFirstCandidate sites hit) : hit.site ∈ sites := by
  obtain ⟨later, hsplit⟩ := h.split
  rw [hsplit]
  simp

end Job

end HotReload
