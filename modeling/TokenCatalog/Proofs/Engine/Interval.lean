import TokenCatalog.Proofs.Engine.Timekeeping
import Mathlib.Algebra.Group.Int.Defs

namespace TokenCatalog

/-!
# Intervals — when an unforced refresh is due

A check compares the seconds since the last refresh with those of the interval, both as signed
numbers of 64 bits.  The first are clamped, which no comparison can tell; the second wrap, so that an
interval of `2⁶³` seconds or more becomes negative, and every check finds that it has passed.

* `Worker.UnforcedCheck` — a check in the way of which only the interval can be;
* `Worker.began_iff_of_seconds_lt`, `Worker.began_of_seconds_ge` — when it begins a refresh;
* `Config.HasExactGate` — the comparison is that of the integers; `Config.hasExactGate_iff` says for
  which intervals it is;
* `Engine.noted_le_of_path` — no time that was ever noted is later than the one that is stored;
* `Engine.interval_gate` — the whole account: what a check does, and how far apart refreshes are.
-/

namespace Worker

variable {v : Worker} {s : Surroundings} {a : Action} {t : Turn} {last : Int64}

/-! ### Seconds -/

/-- An interval below 2^63 seconds is counted as it is. -/
theorem toInt_intervalSeconds {d : Duration} (h : d.seconds < 2 ^ 63) :
    (intervalSeconds d).toInt = d.seconds :=
  Int64.toInt_ofNat_of_lt h

/-- A long interval counts as the negative number that it is congruent to. -/
theorem toInt_intervalSeconds_of_ge {d : Duration} (h : 2 ^ 63 ≤ d.seconds)
    (hlimit : d.seconds < 2 ^ 64) : (intervalSeconds d).toInt = d.seconds - 2 ^ 64 := by
  rw [intervalSeconds, Int64.toInt_ofNat', Int.bmod_def]
  have hsize : Int64.size = 2 ^ 64 := rfl
  rw [hsize]
  omega

/-- Clamping is not seen where the other side is above the least number. -/
theorem le_toInt_elapsed_iff {now last : Int64} {n : Int} (hlow : -2 ^ 63 < n) (hhigh : n < 2 ^ 63) :
    n ≤ (elapsed now last).toInt ↔ n ≤ now.toInt - last.toInt := by
  have hmin : Int64.minValue.toInt = -2 ^ 63 := rfl
  have hmax : Int64.maxValue.toInt = 2 ^ 63 - 1 := rfl
  unfold elapsed Int64.ofIntClamp
  split
  · split
    · rw [Int64.toInt_ofIntLE]
    · omega
  · omega

/-! ### One check -/

/-- A worker makes a check that is not forced, is not cancelled, knows the guard to be off, and reads
    the time of the last refresh. -/
structure UnforcedCheck (v : Worker) (s : Surroundings) (a : Action) (t : Turn) (last : Int64) :
    Prop where
  checks : v.stage = .spawned false ∧ s.clock + s.config.checkInterval.nanoseconds < instantLimit ∨
    v.stage = .idle ∧ a = .tick
  act : v.act? s a = some t
  uncancelled : s.cancelled = false
  online : s.world.isPrivate? = some false
  readable : s.world.refreshTime? = some last

/-- A check that passes without force has found a refresh due by its clock. -/
theorem UnforcedCheck.of_passes (hpasses : v.Passes s a) (hact : v.act? s a = some t)
    (hstage : v.stage ≠ .spawned true) (hread : s.world.refreshTime? = some last) :
    UnforcedCheck v s a t last := by
  cases hpasses with
  | @first force hspawned hearly huncancelled honline =>
    cases force with
    | true => exact absurd hspawned hstage
    | false => exact ⟨.inl ⟨hspawned, hearly⟩, hact, huncancelled, honline, hread⟩
  | later hidle _ huncancelled honline =>
    exact ⟨.inr ⟨hidle, rfl⟩, hact, huncancelled, honline, hread⟩

/-- A refresh is due exactly when the interval, as it is counted, has elapsed. -/
theorem isDue_iff (h : s.world.refreshTime? = some last) :
    isDue s.config s.world = true ↔
      (intervalSeconds s.config.interval).toInt ≤ (elapsed s.world.now last).toInt := by
  rw [isDue, h, Option.getD_some, Bool.not_eq_true', decide_eq_false_iff_not,
    Int64.lt_iff_toInt_lt, Int.not_lt]

/-- Only the interval decides. -/
theorem UnforcedCheck.began_iff (h : UnforcedCheck v s a t last) :
    .refreshBegan s.id ∈ t.events ↔
      (intervalSeconds s.config.interval).toInt ≤ (elapsed s.world.now last).toInt := by
  rw [began_iff_passes h.act, ← isDue_iff h.readable]
  constructor
  · intro hpasses
    -- A check that is not forced is the first one or a later one; both ask whether a refresh is
    -- due.
    cases hpasses with
    | first hstage _ _ _ hdue =>
      rcases h.checks with ⟨hstage', -⟩ | ⟨hstage', -⟩
      · cases hstage.symm.trans hstage'
        exact hdue.resolve_left Bool.false_ne_true
      · cases hstage.symm.trans hstage'
    | later _ _ _ _ hdue => exact hdue
  · intro hdue
    rcases h.checks with ⟨hstage, hearly⟩ | ⟨hstage, rfl⟩
    · obtain rfl := eq_start_of_act? hstage h.act
      exact .first hstage hearly h.uncancelled h.online (.inr hdue)
    · cases step_of_act? h.act with
      | tick _ hticks => exact .later hstage hticks h.uncancelled h.online hdue

/-- **Below `2⁶³` seconds the interval counts as it is.** -/
theorem UnforcedCheck.began_iff_of_seconds_lt (h : UnforcedCheck v s a t last)
    (hseconds : s.config.interval.seconds < 2 ^ 63) :
    .refreshBegan s.id ∈ t.events ↔
      (s.config.interval.seconds : Int) ≤ s.world.now.toInt - last.toInt := by
  rw [h.began_iff, toInt_intervalSeconds hseconds]
  exact le_toInt_elapsed_iff (by omega) (by omega)

/-- From there on no check is in time, unless the stored time is ahead of the clock. -/
theorem UnforcedCheck.began_of_seconds_ge (h : UnforcedCheck v s a t last)
    (hseconds : 2 ^ 63 ≤ s.config.interval.seconds) (hlimit : s.config.interval.seconds < 2 ^ 64)
    (hlast : last ≤ s.world.now) : .refreshBegan s.id ∈ t.events := by
  have hle := Int64.le_iff_toInt_le.1 hlast
  have hzero : 0 ≤ (elapsed s.world.now last).toInt :=
    (le_toInt_elapsed_iff (by omega) (by omega)).2 (by omega)
  rw [h.began_iff, toInt_intervalSeconds_of_ge hseconds hlimit]
  omega

/-- At any time a worker may make such a check, whatever time is stored. -/
theorem exists_unforcedCheck (c : Config) (now last : Int64) :
    ∃ v s a t, UnforcedCheck v s a t last ∧ s.config = c ∧ s.world.now = now := by
  let v : Worker := { parent := 0, stage := .idle }
  let s : Surroundings := ⟨c, { now, lastRefresh := last }, 0, false, 0⟩
  have hact : v.act? s .tick = some ({ v with
      nextTick := tickAfter 0 0 c.checkInterval.nanoseconds }.check s false) := rfl
  exact ⟨v, s, .tick, _, ⟨.inr ⟨rfl, rfl⟩, hact, rfl, rfl, rfl⟩, rfl, rfl⟩

end Worker

namespace Config

/-- An unforced check begins a refresh exactly if the whole seconds of the interval have passed since
    the stored time, in integers. -/
def HasExactGate (c : Config) : Prop :=
  ∀ v s a t last, Worker.UnforcedCheck v s a t last → s.config = c →
    (.refreshBegan s.id ∈ t.events ↔ (c.interval.seconds : Int) ≤ s.world.now.toInt - last.toInt)

/-- **The gate is exact for intervals below `2⁶³` seconds, and for no others.** -/
theorem hasExactGate_iff (c : Config) : c.HasExactGate ↔ c.interval.seconds < 2 ^ 63 := by
  constructor
  · intro hexact
    by_contra hlong
    -- The longest time that can be told is never below the interval as it is compared.
    obtain ⟨v, s, a, t, hcheck, rfl, hnow⟩ := Worker.exists_unforcedCheck c .maxValue 0
    have hbegan : .refreshBegan s.id ∈ t.events := by
      rw [hcheck.began_iff, hnow]
      exact Int64.toInt_le _
    have hpassed := (hexact v s a t 0 hcheck rfl).1 hbegan
    rw [hnow, Int64.toInt_maxValue, Int64.toInt_zero] at hpassed
    omega
  · rintro hseconds v s a t last hcheck rfl
    exact hcheck.began_iff_of_seconds_lt hseconds

end Config

namespace Engine

variable {c : Config} {allowed : Engine → Action → Prop} {start e e' : Engine}
  {ts us vs : List Transition} {t b : Transition} {w i : WorkerId} {time : Int64} {ok : Bool}

/-! ### Runs -/

/-- The promise that the application leaves the stored time alone, that the clock on the wall does not
    go back, and that the time can be read and written. -/
def KeepsTime (e : Engine) (a : Action) : Prop :=
  LeavesTime e a ∧ e.crew.world.fails .readRefreshTime = false ∧
    e.crew.world.fails .writeRefreshTime = false

instance (e : Engine) (a : Action) : Decidable (KeepsTime e a) :=
  inferInstanceAs (Decidable (_ ∧ _))

/-- A worker begins a refresh in a step, and not because it was told to. -/
def Transition.BeginsUnforced (w : WorkerId) (t : Transition) : Prop :=
  .refreshBegan w ∈ t.events ∧ t.before.crew.stage? w ≠ some (.spawned true)

/-- What was noted in a step is at most what is stored after it, and that is not ahead of the
    clock. -/
theorem TimeCase.noted_le (h : TimeCase c ts t) (hkeeps : KeepsTime t.before t.action)
    (hnoted : .refreshRecorded i time ok ∈ t.events) :
    time ≤ t.after.crew.world.lastRefresh ∧
      t.after.crew.world.lastRefresh ≤ t.after.crew.world.now := by
  cases h with
  | altered _ huntimed | kept _ _ huntimed => exact (huntimed _ hnoted).elim
  | noted hending =>
    obtain ⟨_, _, _, _, _, -, -, -, hconcluded, hevents, -⟩ := hending.attempt
    rw [hevents] at hnoted
    obtain ⟨rfl, rfl, rfl⟩ := Event.eq_of_mem_noted hconcluded.untimed hnoted
    have hok : ok = true := hending.ok_eq.trans (by rw [hkeeps.2.2]; rfl)
    have hstored : t.after.crew.world.lastRefresh = time := hending.stored.trans (if_pos hok)
    rw [hstored, hending.now, hending.time_eq]
    exact ⟨Int64.le_refl _, Int64.le_refl _⟩

/-- **No time that was ever noted is later than the stored one.** -/
theorem noted_le_of_path (hp : Path c allowed start ts e) (h : ∀ w, Ledger c w [] start)
    (hkeeps : ∀ t ∈ ts, KeepsTime t.before t.action) (hb : b ∈ ts)
    (hnoted : .refreshRecorded i time ok ∈ b.events) :
    time ≤ e.crew.world.lastRefresh ∧ e.crew.world.lastRefresh ≤ e.crew.world.now := by
  induction hp with
  | nil => exact absurd hb List.not_mem_nil
  | snoc path _ hs ih =>
    obtain ⟨hbefore, hlast⟩ := List.forall_mem_append.1 hkeeps
    have hkept := hlast _ (List.mem_singleton_self _)
    have hcase := timeCase_of_step (ledger_of_path path h) hs
    rcases List.mem_append.1 hb with hb | hb
    · obtain ⟨hle, hpast⟩ := ih hbefore hb
      obtain ⟨hup, hpast'⟩ := hcase.lastRefresh_le hkept.1 hpast
      exact ⟨Int64.le_trans hle hup, hpast'⟩
    · rw [List.mem_singleton.1 hb] at hnoted
      exact hcase.noted_le hkept hnoted

/-- A worker that begins a refresh unforced has made an unforced check. -/
theorem exists_unforcedCheck_of_step (hs : t.before.step? c t.action = some (t.after, t.events))
    (hbegins : t.BeginsUnforced w)
    (hreadable : t.before.crew.world.fails .readRefreshTime = false) :
    ∃ v s a turn, Worker.UnforcedCheck v s a turn t.before.crew.world.lastRefresh ∧
      s.config = c ∧ s.world = t.before.crew.world ∧ .refreshBegan s.id ∈ turn.events := by
  obtain ⟨hbegan, hunforced⟩ := hbegins
  obtain ⟨v, a, haction, hv, hpasses⟩ := (began_iff_passes hs).1 hbegan
  obtain haction : t.action = .work w a := haction
  rw [haction] at hs
  obtain ⟨v', turn, hv', hact, -, hevents⟩ := exists_turn_of_step hs
  cases hv.symm.trans hv'
  have hstage : v.stage ≠ .spawned true := fun hstage => by
    refine hunforced ?_
    rw [Crew.stage?_of_getElem? hv', hstage]
  have hread : t.before.crew.world.refreshTime? = some t.before.crew.world.lastRefresh :=
    if_neg (by rw [hreadable]; exact Bool.false_ne_true)
  exact ⟨v, _, a, turn, .of_passes hpasses hact hstage hread, rfl, rfl, hevents ▸ hbegan⟩

/-- **Refreshes keep their distance.**  An unforced refresh begins no sooner than the interval after
    any time that was noted before. -/
theorem le_of_beginsUnforced (hp : Path c allowed start ts e) (h : ∀ w, Ledger c w [] start)
    (hkeeps : ∀ t ∈ ts, KeepsTime t.before t.action) (hseconds : c.interval.seconds < 2 ^ 63)
    (hcut : ts = us ++ t :: vs) (hb : b ∈ us) (hnoted : .refreshRecorded i time ok ∈ b.events)
    (hbegins : t.BeginsUnforced w) :
    time.toInt + c.interval.seconds ≤ t.before.crew.world.now.toInt := by
  subst hcut
  obtain ⟨hkeepsBefore, hkeepsNext⟩ := List.forall_mem_append.1 hkeeps
  obtain ⟨m, hbefore, hafter⟩ := hp.split
  obtain ⟨rfl, -, hs, -⟩ := hafter.uncons
  obtain ⟨hle, -⟩ := noted_le_of_path hbefore h hkeepsBefore hb hnoted
  have hreadable := (hkeepsNext t List.mem_cons_self).2.1
  obtain ⟨v, s, a, turn, hcheck, hconfig, hworld, hbegan⟩ :=
    exists_unforcedCheck_of_step hs hbegins hreadable
  rw [← hconfig] at hseconds ⊢
  -- The check has passed, so the interval has elapsed since the last time that was noted.
  have hpassed := (hcheck.began_iff_of_seconds_lt hseconds).1 hbegan
  have hlast := Int64.le_iff_toInt_le.1 hle
  rw [hworld] at hpassed
  omega

/-! ### The whole account -/

/-- What the interval of a configuration is worth on a run. -/
structure IntervalGate (c : Config) (ts : List Transition) : Prop where
  /-- Every unforced check compares as the integers do, exactly if the interval is below `2⁶³`
      seconds. -/
  exact : c.HasExactGate ↔ c.interval.seconds < 2 ^ 63
  /-- Then refreshes keep their distance: an unforced one begins no sooner than the interval after
      any time that was noted before it. -/
  spaced : c.interval.seconds < 2 ^ 63 → (∀ t ∈ ts, KeepsTime t.before t.action) →
    ∀ us t vs, ts = us ++ t :: vs → ∀ w, t.BeginsUnforced w →
      ∀ b ∈ us, ∀ (i : WorkerId) (time : Int64) (ok : Bool),
        .refreshRecorded i time ok ∈ b.events →
        time.toInt + c.interval.seconds ≤ t.before.crew.world.now.toInt
  /-- A longer interval is as good as none: every unforced check begins a refresh, unless the stored
      time is ahead of the clock. -/
  hurried : 2 ^ 63 ≤ c.interval.seconds → c.interval.seconds < 2 ^ 64 →
    ∀ v s a t last, Worker.UnforcedCheck v s a t last → s.config = c → last ≤ s.world.now →
      .refreshBegan s.id ∈ t.events

/-- **The interval is kept, unless it is too long**, on every run of a new engine and whatever time is
    stored. -/
theorem interval_gate {world : World} {capacity : Nat}
    (hp : Path c allowed (initial world capacity) ts e) : IntervalGate c ts := by
  constructor
  · exact c.hasExactGate_iff
  · intro hseconds hkeeps us t vs hcut w hbegins b hb i time ok hnoted
    exact le_of_beginsUnforced hp (ledger_initial c world capacity) hkeeps hseconds hcut hb hnoted
      hbegins
  · rintro hseconds hlimit v s a t last hcheck rfl hlast
    exact hcheck.began_of_seconds_ge hseconds hlimit hlast

/-- A refresh, and another one at the first tick after which the half hour has passed. -/
def awaited : List Transition × Engine :=
  follow .remote (initial { now := 10000 } 4)
    [.invoke (.start 0), .resume (.call 0), .work 0 .start,
      .work 0 (.manifestAnswered (.error .failed) false), .resume (.listener 0), .work 0 .resume,
      .elapse 1800000000000, .alter { now := 11800, lastRefresh := 10000 }, .work 0 .tick]

/-- What is to be seen of the awaited run, checked by running it. -/
theorem awaited_facts : (∀ t ∈ awaited.1, KeepsTime t.before t.action) ∧
    (awaited.1[3]?).any (·.events = [.refreshRecorded 0 10000 true]) = true ∧
    (awaited.1[8]?).any (fun t => t.events.contains (.refreshBegan 0) &&
      t.before.crew.stage? 0 != some (.spawned true) && t.before.crew.world.now = 11800) = true := by
  decide +kernel

/-- In the awaited run the second refresh begins when the interval has elapsed, and not before. -/
theorem interval_gate_awaited : IntervalGate .remote awaited.1 ∧
    ∃ t ∈ awaited.1, t.BeginsUnforced 0 ∧ t.before.crew.world.now = 11800 ∧
      (10000 : Int64).toInt + Config.remote.interval.seconds ≤ t.before.crew.world.now.toInt := by
  obtain ⟨hkeeps, hnoted, hbegins⟩ := awaited_facts
  have hpath : Path .remote (fun _ _ => True) (initial { now := 10000 } 4) awaited.1 awaited.2 :=
    path_follow fun _ _ => trivial
  have hgate := interval_gate hpath
  obtain ⟨b, hb, hevents⟩ := (Option.any_eq_true _ _).1 hnoted
  obtain ⟨t, ht, hunforced⟩ := (Option.any_eq_true _ _).1 hbegins
  have hevents := of_decide_eq_true hevents
  simp only [Bool.and_eq_true, List.contains_iff_mem, bne_iff_ne, decide_eq_true_eq] at hunforced
  obtain ⟨⟨hbegan, hstage⟩, hnow⟩ := hunforced
  have hearlier : b ∈ awaited.1.take 8 :=
    List.mem_of_getElem? ((List.getElem?_take_of_lt (by decide)).trans hb)
  refine ⟨hgate, t, List.mem_of_getElem? ht, ⟨hbegan, hstage⟩, hnow, ?_⟩
  exact hgate.spaced (by decide) hkeeps _ t _ (cut_of_getElem? ht) 0 ⟨hbegan, hstage⟩ b hearlier 0
    10000 true (hevents ▸ List.mem_singleton_self _)

end Engine

/-! ### An interval that is too long -/

/-- A draft that asks for a refresh once in `2⁶³` seconds. -/
def Draft.endless : Draft :=
  { Draft.ofMainList "main" [] .standard with
    chains := [1], interval := .ofSeconds (2 ^ 63), supplied := Collaborator.all }

/-- The configuration that it becomes. -/
def Config.endless : Config where
  mainListId := "main"
  mainList := []
  initialLists := ∅
  formats := Draft.endless.formats
  defaultFormat := .standard
  chains := [1]
  manifestUrl := none
  interval := .ofSeconds (2 ^ 63)
  checkInterval := .ofSeconds 60
  validator := .structural

/-- The endless draft is accepted. -/
theorem Draft.validate_endless : Draft.endless.validate = .ok Config.endless := rfl

namespace Engine

/-- A long interval is accepted, and then refreshes come without one: a check begins a refresh
    although only a hundred seconds have passed since the last. -/
theorem interval_gate_not_always_exact :
    (¬ ∀ (d : Draft) (c : Config), d.validate = .ok c → c.HasExactGate) ∧
    ∃ v s a t, Worker.UnforcedCheck v s a t 900 ∧ s.config = .endless ∧ s.world.now = 1000 ∧
      .refreshBegan s.id ∈ t.events := by
  have hseconds : Config.endless.interval.seconds = 2 ^ 63 := Duration.seconds_ofSeconds _
  constructor
  · intro hexact
    have hlt := (Config.hasExactGate_iff _).1 (hexact _ _ Draft.validate_endless)
    rw [hseconds] at hlt
    exact Nat.lt_irrefl _ hlt
  · obtain ⟨v, s, a, t, hcheck, hconfig, hnow⟩ := Worker.exists_unforcedCheck .endless 1000 900
    refine ⟨v, s, a, t, hcheck, hconfig, hnow, hcheck.began_of_seconds_ge ?_ ?_ ?_⟩
    · rw [hconfig, hseconds]
    · rw [hconfig, hseconds]
      decide
    · rw [hnow]
      decide

end Engine

end TokenCatalog
