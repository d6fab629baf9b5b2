import PageFlow.Proofs.Keeping
import PageFlow.Proofs.Rehearsal
import PageFlow.Proofs.Script
import PageFlow.Settings.Reader

/-!
# Time limits and delays

Whatever a run asks of the page and of the clock is legal. A time limit is an
integer that is not below zero, taken from the settings or from a step. A delay
in front of a click or of a key lies within the bounds of the settings if there
are delays at all, and otherwise it is zero and no random number is used. The
bounds are never the wrong way round, so that a number between them can always
be drawn.
-/

namespace PageFlow

open Act PageFlow.Decimal

variable {σ α β : Type}

/-! ## The numbers of the settings -/

/-- A setting has its usual value if it is not given, and otherwise the value
that is read. -/
def SettingsSource.Gives (source : SettingsSource) (name : String) (usual : α)
    (reads : Value → α → Prop) (chosen : α) : Prop :=
  source.find? name = none ∧ chosen = usual ∨
    ∃ value, source.find? name = some value ∧ reads value chosen

/-- A number is not negative, and it is the integer that a value gives. -/
def Value.Numbers (value : Value) (number : Nat) : Prop :=
  Field.integer value = .ok (number : Int)

/-- The time limits and the delays of settings are those that a source gives. -/
structure Settings.Times (settings : Settings) (source : SettingsSource) :
    Prop where
  navigation :
    source.Gives "NAVIGATION_TIMEOUT_MS" 30000 Value.Numbers
    settings.navigationTimeout
  action :
    source.Gives "ACTION_TIMEOUT_MS" 10000 Value.Numbers settings.actionTimeout
  waitFor :
    source.Gives "WAIT_FOR_TIMEOUT_MS" 30000 Value.Numbers
      settings.waitForTimeout
  humanize :
    source.Gives "HUMANIZE" true
      (fun value chosen => Field.truth value = .ok chosen)
    settings.humanize
  clickLeast :
    source.Gives "CLICK_DELAY_MIN_MS" 100 Value.Numbers
      settings.clickDelay.least
  clickMost :
    source.Gives "CLICK_DELAY_MAX_MS" 300 Value.Numbers settings.clickDelay.most
  keyLeast :
    source.Gives "KEY_DELAY_MIN_MS" 50 Value.Numbers settings.keyDelay.least
  keyMost :
    source.Gives "KEY_DELAY_MAX_MS" 150 Value.Numbers settings.keyDelay.most

namespace Settings

/-- Whatever is read without problems is good. -/
def Checked.Ensures (result : Checked α) (good : α → Prop) : Prop :=
  ∀ value, result = .ok value → good value

theorem Checked.Ensures.apply {f : Checked (α → β)} {x : Checked α}
    {good : β → Prop}
    (both : f.Ensures fun build => x.Ensures fun value => good (build value)) :
    (Checked.apply f x).Ensures good := by
  intro built same
  rcases f with problems | build <;> rcases x with others | value
  all_goals cases same
  exact both build rfl value rfl

theorem gives_of_setting {source : SettingsSource} {name : String}
    {usual chosen : α} {read : Value → Except FieldCause α}
    (found : setting source name usual read = .ok chosen) :
    source.Gives name usual (fun value chosen => read value = .ok chosen)
      chosen := by
  unfold setting at found
  split at found
  · rename_i absent
    cases found
    exact .inl ⟨absent, rfl⟩
  · rename_i value present
    exact .inr ⟨value, present, Step.placed_eq_ok.mp found⟩

theorem numbers_of_readNat {value : Value} {number : Nat}
    (read : readNat 0 none value = .ok number) : value.Numbers number := by
  obtain ⟨n, bounded, last⟩ := exists_of_bind_eq_ok read
  obtain ⟨integer, least⟩ := Step.bounded_eq_ok.mp bounded
  cases last
  rwa [Value.Numbers, Int.toNat_of_nonneg least]

theorem gives_of_time {source : SettingsSource} {name : String}
    {usual number : Nat}
    (found : setting source name usual (readNat 0 none) = .ok number) :
    source.Gives name usual Value.Numbers number :=
  (gives_of_setting found).imp_right fun ⟨value, present, read⟩ =>
    ⟨value, present, numbers_of_readNat read⟩

theorem times_of_check {source : SettingsSource} {settings : Settings}
    (checked : check source = .ok settings) : Times settings source := by
  unfold check at checked
  extract_lets truth time absolute history parts at checked
  have read : parts.Ensures fun assembled =>
      assembled = .ok settings → Times settings source := by
    -- The settings come in the order in which they are documented.
    iterate 24 refine Checked.Ensures.apply ?_
    rintro _ ⟨⟩
    rintro _ - _ - _ - _ - _ - _ - _ - _ - navigation navigationRead action
      actionRead waiting
      waitingRead _ - humanize humanizeRead clickLeast clickLeastRead clickMost
        clickMostRead
      keyLeast keyLeastRead keyMost keyMostRead
        _ - _ - _ - _ - _ - _ - _ - assembled
    unfold assemble at assembled
    split at assembled
    · split at assembled
      · cases assembled
        exact ⟨gives_of_time navigationRead, gives_of_time actionRead,
          gives_of_time waitingRead, gives_of_setting humanizeRead,
          gives_of_time clickLeastRead, gives_of_time clickMostRead,
          gives_of_time keyLeastRead, gives_of_time keyMostRead⟩
      · cases assembled
    · cases assembled
  clear_value parts
  split at checked
  · exact read _ rfl checked
  · cases checked

/-- The time limits and the delays of settings that were read are those that the
caller, the environment and the files give, taken over as they are. -/
theorem times_of_read {given : List (String × Value)}
    {environment : Environment} {files : FileSystem} {settings : Settings}
    (read : Settings.read given environment files = .ok settings) :
    ∃ source : SettingsSource,
      source.given = given ∧ source.environment = environment ∧
      fileEntries files environment = .ok source.file ∧
        Times settings source := by
  unfold Settings.read at read
  split at read
  · cases read
  · rename_i file entries
    unfold ofSource at read
    dsimp only at read
    split at read
    · cases read
    · split at read
      · rename_i checked
        cases read
        exact ⟨_, rfl, rfl, entries, times_of_check checked⟩
      · cases read

end Settings

/-! ## The numbers of the steps -/

/-- The steps of a flow are malformed, or what they were read from describes
them. -/
theorem Flow.valid_of_ofValue {environment : Environment} {source : String}
    {value : Value} {flow : Flow}
    (read : ofValue environment source value = .ok flow) :
    ∀ step ∈ flow.steps, ¬ step.isMalformed → ∃ tag,
      Step.Valid step.raw tag step := by
  cases value with
  | dict entries =>
      obtain ⟨-, -, values, -, all⟩ := ofValue_eq_ok.mp read
      intro step member sound
      obtain ⟨value, -, made⟩ := exists_of_forall₂ all.flip member
      obtain ⟨raw, tag, -, valid⟩ :=
        (Step.becomes_of_read made).1.described.mp sound
      exact ⟨tag, valid.keeps ▸ valid⟩
  | _ => cases read

/-- A flow allows an integer as a time limit: it is not below zero, and it is
one of those in the settings or the one that a step sets. -/
def Flow.AllowsLimit (flow : Flow) (settings : Settings) (limit : Int) : Prop :=
  0 ≤ limit ∧
    (limit = settings.navigationTimeout ∨ limit = settings.actionTimeout ∨
      limit = settings.waitForTimeout ∨
      ∃ step ∈ flow.steps, ∃ value,
        Step.LimitValue step.raw value ∧ Field.integer value = .ok limit)

/-- A flow allows a rest: a step asks for it, and it is a finite time that is
not below zero. -/
def Flow.AllowsRest (flow : Flow) (ms : Binary64) : Prop :=
  ms.isFinite ∧ ¬ ms.isNegative ∧ ∃ step ∈ flow.steps, step.action = .wait ms

/-- Settings allow a delay: it is within the bounds, or zero where there are no
delays. -/
def Settings.AllowsDelay (settings : Settings) (range : DelayRange) (ms : Int) :
    Prop :=
  if settings.humanize then range.least ≤ ms ∧ ms ≤ range.most else ms = 0

/-- A call with a time limit has a legal one. Keys are not typed by a call alone
but with a delay. -/
def Call.Legal (settings : Settings) (flow : Flow) : Call → Prop
  | .goto _ limit | .waitFor _ _ limit => flow.AllowsLimit settings limit
  | .typeText .. => False
  | _ => True

/-- The calls and rests of a move are legal. -/
def Move.Legal (settings : Settings) (flow : Flow) : Move → Prop
  | .call asked => asked.Legal settings flow
  | .rest ms => flow.AllowsRest ms
  | _ => True

namespace Step

variable {settings : Settings} {flow : Flow} {step : Step}

theorem allowsLimit {tag : Tag} (member : step ∈ flow.steps)
    (valid : Valid step.raw tag step) {usual : Nat}
    (known : usual ∈ [settings.navigationTimeout, settings.actionTimeout,
      settings.waitForTimeout]) :
    flow.AllowsLimit settings (step.limit usual) := by
  refine ⟨Int.natCast_nonneg _, ?_⟩
  obtain ⟨value, counts, sets⟩ := valid.limits
  unfold limit
  cases own : step.timeout with
  | none =>
      simp only [List.mem_cons, List.not_mem_nil, or_false] at known
      rcases known with rfl | rfl | rfl
      · exact .inl rfl
      · exact .inr (.inl rfl)
      · exact .inr (.inr (.inl rfl))
  | some limit =>
      rw [own] at sets
      cases sets with
      | some integer =>
          exact .inr (.inr (.inr ⟨step, member, value, counts, integer⟩))

theorem allowsRest {tag : Tag} {ms : Binary64} (member : step ∈ flow.steps)
    (valid : Valid step.raw tag step) (action : step.action = .wait ms) :
    flow.AllowsRest ms := by
  have described := valid.describes
  rw [action] at described
  cases described with
  | wait _ _ finite least => exact ⟨finite, least, step, member, action⟩

/-- The moves of a step of a flow are legal. -/
theorem moves_legal (member : step ∈ flow.steps)
    (sound : ¬ step.isMalformed → ∃ tag, Valid step.raw tag step)
    (baseUrl : String) :
    ∀ move ∈ step.moves settings baseUrl, move.Legal settings flow := by
  intro move among
  by_cases malformed : step.isMalformed
  · obtain ⟨reason, action⟩ : ∃ reason, step.action = .malformed reason := by
      cases action : step.action <;> simp_all [isMalformed, Action.isMalformed]
    simp only [moves, action, List.mem_singleton] at among
    rw [among]
    trivial
  · obtain ⟨tag, valid⟩ := sound malformed
    have limited {usual : Nat}
        (known : usual ∈ [settings.navigationTimeout, settings.actionTimeout,
          settings.waitForTimeout]) :
        flow.AllowsLimit settings (step.limit usual) :=
      allowsLimit member valid known
    unfold moves at among
    cases action : step.action <;>
      simp only [action, List.mem_cons, List.not_mem_nil, or_false,
        List.mem_append, List.mem_map] at among
    case type selector text =>
      rcases among with (rfl | rfl | rfl) | ⟨_, _, rfl⟩
      · exact limited (by simp)
      all_goals trivial
    case wait ms =>
      rw [among]
      exact allowsRest member valid action
    all_goals
      rcases among with rfl | rfl | rfl <;>
        first | exact limited (by simp) | trivial

end Step

/-! ## Deeds -/

/-- What a run does with the session and with time: it lets an event of the
session happen, makes a delay in front of a click, types a key with a delay, or
rests. -/
inductive Deed where
  | event (event : SessionEvent)
  | pause (ms : Int)
  | key (locator character : String) (ms : Int)
  | rest (ms : Binary64)

namespace Deed

/-- The event of the session that is noted with a deed. -/
def event? : Deed → Option SessionEvent
  | .event happened => some happened
  | .key locator character ms => some (.called (.typeText locator character ms))
  | _ => none

/-- The seconds that are slept with a deed. A number of milliseconds beyond
double precision is refused before anything is slept. -/
def nap? : Deed → Option Binary64
  | .pause ms =>
    if ms ≤ 0 then none
    else match Binary64.ofInt ms with
      | .infinite _ => none
      | exact => some (exact.divNat 1000)
  | .rest ms => if ms.isPositive then some (ms.divNat 1000) else none
  | _ => none

/-- The delay of a deed, with the bounds that it is drawn from. -/
def delay? (settings : Settings) : Deed → Option (DelayRange × Int)
  | .pause ms => some (settings.clickDelay, ms)
  | .key _ _ ms => some (settings.keyDelay, ms)
  | _ => none

/-- The delays that are drawn for deeds; none are where there are no delays. -/
def draws (settings : Settings) (deeds : List Deed) : List (DelayRange × Int) :=
  if settings.humanize then deeds.filterMap (delay? settings) else []

/-- A deed is legal under settings in the run of a flow. -/
def Legal (settings : Settings) (flow : Flow) : Deed → Prop
  | .event (.called call) => call.Legal settings flow
  | .event _ => True
  | .pause ms => settings.AllowsDelay settings.clickDelay ms
  | .key _ _ ms => settings.AllowsDelay settings.keyDelay ms
  | .rest ms => flow.AllowsRest ms

theorem draws_append (settings : Settings) (first second : List Deed) :
    draws settings (first ++ second) = draws settings first ++
      draws settings second := by
  unfold draws
  split
  · exact List.filterMap_append
  · rfl

theorem draws_of_none {settings : Settings} {deed : Deed}
    (none : deed.delay? settings = .none) : draws settings [deed] = [] := by
  simp [draws, none]

theorem length_draws_of_some {settings : Settings} {deed : Deed}
    {delay : DelayRange × Int} (delayed : deed.delay? settings = some delay) :
    (draws settings [deed]).length = if settings.humanize then 1 else 0 := by
  cases humanize : settings.humanize <;> simp [draws, humanize, delayed]

end Deed

/-- Deeds account for what happened between two worlds: for the events of the
session, for what was slept, and for the random numbers, each of which has
chosen the delay whose turn it was. -/
structure World.Accounts (settings : Settings) (before : World σ)
    (deeds : List Deed) (after : World σ) : Prop where
  events : after.events = before.events ++ deeds.filterMap Deed.event?
  naps : after.naps = before.naps ++ deeds.filterMap Deed.nap?
  random : after.random = before.random
  drawn : after.drawn = before.drawn + (Deed.draws settings deeds).length
  chosen : ∀ index range ms,
    (Deed.draws settings deeds)[index]? = some (range, ms) →
    ms = Pacing.within range.least range.most
      (before.random (before.drawn + index))

namespace World

variable {settings : Settings} {before between after : World σ}
  {deeds later : List Deed}

theorem Accounts.append (first : before.Accounts settings deeds between)
    (second : between.Accounts settings later after) :
    before.Accounts settings (deeds ++ later) after where
  events := by
    rw [second.events, first.events, List.filterMap_append, List.append_assoc]
  naps := by
    rw [second.naps, first.naps, List.filterMap_append, List.append_assoc]
  random := second.random.trans first.random
  drawn := by
    rw [second.drawn, first.drawn, Deed.draws_append, List.length_append,
      Nat.add_assoc]
  chosen index range ms found := by
    rw [Deed.draws_append, List.getElem?_append] at found
    split at found
    · exact first.chosen index range ms found
    · rename_i behind
      have turn := second.chosen _ range ms found
      rwa [first.random, first.drawn, Nat.add_assoc,
        Nat.add_sub_cancel' (Nat.not_lt.mp behind)] at turn

/-- The naps, and the random numbers in use. -/
def timing (world : World σ) : List Binary64 × (Nat → Int) × Nat :=
  (world.naps, world.pace)

theorem timing_eq_iff : after.timing = before.timing ↔
    after.naps = before.naps ∧ after.random = before.random ∧
      after.drawn = before.drawn := by
  simp [timing, pace]

theorem accounts_nil (events : after.events = before.events)
    (timing : after.timing = before.timing) :
    before.Accounts settings [] after := by
  obtain ⟨naps, random, drawn⟩ := timing_eq_iff.mp timing
  exact ⟨by simp [events], by simp [naps], random, by simp [Deed.draws, drawn],
    by simp [Deed.draws]⟩

/-- A deed with a delay takes the random number whose turn it is, if there are
delays at all. -/
theorem accounts_of_deed {deed : Deed}
    (events : after.events = before.events ++ deed.event?.toList)
    (naps : after.naps = before.naps ++ deed.nap?.toList)
    (random : after.random = before.random)
    (drawn : after.drawn = before.drawn + (Deed.draws settings [deed]).length)
    (chosen : settings.humanize → ∀ range ms,
      deed.delay? settings = some (range, ms) →
      ms = Pacing.within range.least range.most (before.random before.drawn)) :
    before.Accounts settings [deed] after := by
  refine ⟨?_, ?_, random, drawn, ?_⟩
  · cases event : deed.event? <;> simp [event, events]
  · cases nap : deed.nap? <;> simp [nap, naps]
  · intro index range ms found
    unfold Deed.draws at found
    split at found
    · cases delay : deed.delay? settings with
      | none => simp [delay] at found
      | some drawn =>
          simp only [List.filterMap_cons_some delay, List.filterMap_nil,
            List.getElem?_singleton, Option.ite_none_right_eq_some] at found
          obtain ⟨rfl, same⟩ := found
          exact chosen ‹_› range ms (delay.trans same)
    · cases found

end World

/-- What happens is accounted for by deeds that are legal under settings in the
run of a flow. -/
def Frame.lawful (settings : Settings) (flow : Flow) : Frame σ where
  allows before after :=
    ∃ deeds, before.Accounts settings deeds after ∧
      ∀ deed ∈ deeds, deed.Legal settings flow
  refl world := ⟨[], World.accounts_nil rfl rfl, by simp⟩
  trans := by
    rintro first second third ⟨deeds, accounts, legal⟩ ⟨later, others, also⟩
    exact ⟨deeds ++ later, accounts.append others,
      List.forall_mem_append.mpr ⟨legal, also⟩⟩

section Lawful

variable {settings : Settings} {flow : Flow} {driver : Driver σ}
  {before after : World σ}

theorem Frame.lawful_of_deed (deed : Deed)
    (accounts : before.Accounts settings [deed] after)
    (legal : deed.Legal settings flow) :
    (Frame.lawful settings flow).allows before after :=
  ⟨[deed], accounts, List.forall_mem_singleton.mpr legal⟩

/-- Where the session is left alone, nothing is slept and no random number is
used, nothing has to be accounted for. -/
theorem Frame.lawful_of_idle
    (idle : (Frame.keeping fun world : World σ =>
      (world.events, world.timing)).allows before after) :
    (Frame.lawful settings flow).allows before after :=
  ⟨[], World.accounts_nil (congrArg Prod.fst idle) (congrArg Prod.snd idle),
    by simp⟩

theorem Frame.lawful_admitsTelling :
    (Frame.lawful settings flow : Frame σ).AdmitsTelling :=
  AdmitsTelling.weaken (keeping_admitsTelling fun _ _ _ _ _ => rfl)
    lawful_of_idle

theorem Frame.lawful_of_event {event : SessionEvent}
    (events : after.events = before.events ++ [event])
    (timing : after.timing = before.timing)
    (legal : (Deed.event event).Legal settings flow) :
    (Frame.lawful settings flow).allows before after := by
  obtain ⟨naps, random, drawn⟩ := World.timing_eq_iff.mp timing
  refine lawful_of_deed (.event event)
    (World.accounts_of_deed events ?_ random ?_ ?_) legal
  · simpa [Deed.nap?] using naps
  · rwa [Deed.draws_of_none rfl]
  · rintro _ _ _ ⟨⟩

namespace Act

theorem timing_perform (driver : Driver σ) (call : Call) (world : World σ) :
    (perform driver call world).2.timing = world.timing := by
  have within : (perform driver call).Within (.keeping World.timing) := by
    refine within_perform (Frame.keeping_reply (fun _ _ _ _ => rfl) _ _)
      fun path data _ world => ?_
    unfold writeFile
    split <;> rfl
  exact within world

theorem lawful_perform {call : Call} (legal : call.Legal settings flow) :
    (perform driver call).Within (.lawful settings flow) := fun world =>
  Frame.lawful_of_event (perform_events driver call world)
    (timing_perform driver call world) legal

theorem lawful_reply (event : SessionEvent)
    (legal : (Deed.event event).Legal settings flow)
    (asked : Int → σ → Reply σ α) :
    (reply event asked).Within (.lawful settings flow) := by
  intro world
  rw [reply_eq]
  exact Frame.lawful_of_event rfl rfl legal

/-! ## Delays -/

theorem delay_eq (settings : Settings) (range : DelayRange) (world : World σ) :
    ∃ ms, delay settings.humanize range.least range.most world =
        (.ok ms, { world with drawn := world.drawn + if settings.humanize then 1
          else 0 }) ∧
      settings.AllowsDelay range ms ∧
      (settings.humanize → ms = Pacing.within range.least range.most
        (world.random world.drawn)) := by
  have ordered : max (range.least : Int) range.most = range.most := by
    have := range.ordered
    omega
  cases humanize : settings.humanize with
  | true =>
      refine ⟨_, rfl, ?_, fun _ => rfl⟩
      rw [Settings.AllowsDelay, if_pos humanize]
      have most :=
        Pacing.within_le range.least range.most (world.random world.drawn)
      rw [ordered] at most
      exact ⟨Pacing.le_within .., most⟩
  | false => exact ⟨0, rfl, by simp [Settings.AllowsDelay, humanize], by simp⟩

/-- A number between bounds at random, of which none is the wrong way round. -/
def drawBetween (fault : Fault) (least most : Int) : Act σ Int :=
  if least ≤ most then do
    let chosen ← draw
    return least + chosen % (most - least + 1)
  else fail fault

/-- Bounds that would be refused do not arise. -/
theorem delay_eq_drawBetween (fault : Fault) (enabled : Bool)
    (range : DelayRange) :
    (delay enabled range.least range.most : Act σ Int) =
      if enabled then drawBetween fault range.least range.most else pure 0 := by
  have ordered : (range.least : Int) ≤ range.most := by
    exact_mod_cast range.ordered
  simp only [delay, drawBetween, if_pos ordered, Pacing.within,
    max_eq_right ordered]

theorem nap_eq (seconds : Binary64) (world : World σ) :
    ∃ clock, (nap seconds world).2 =
      { world with naps := world.naps ++ [seconds], clock := clock } := by
  unfold nap
  dsimp only
  split
  · exact ⟨_, rfl⟩
  · split <;> exact ⟨_, rfl⟩

theorem sleepWhole_eq (ms : Int) (world : World σ) :
    ∃ clock, (sleepWhole ms world).2 =
      { world with
        naps := world.naps ++ (Deed.pause ms).nap?.toList
        clock := clock } := by
  unfold sleepWhole Deed.nap?
  dsimp only
  split
  · exact ⟨world.clock, by simp⟩
  · generalize Binary64.ofInt ms = number
    cases number with
    | infinite _ => exact ⟨world.clock, by simp [fail]⟩
    | _ => exact nap_eq _ world

theorem sleep_eq {ms : Binary64} (finite : ms.isFinite) (world : World σ) :
    ∃ clock, (sleep ms world).2 =
      { world with
        naps := world.naps ++ (Deed.rest ms).nap?.toList
        clock := clock } := by
  have number : (ms == .nan) = false := by
    cases ms with
    | finite => rfl
    | _ => cases finite
  rw [sleep, number, Bool.or_false, Deed.nap?]
  split
  · exact nap_eq _ world
  · exact ⟨world.clock, by simp⟩

theorem snd_bind_pure (act : Act σ α) (value : β) (world : World σ) :
    ((act >>= fun _ => pure value) world).2 = (act world).2 := by
  have kept :
      (Frame.keeping id).allows (act world).2
        ((act >>= fun _ => pure value) world).2 :=
    allows_of_bind act (fun _ => within_pure value) world
  exact kept

/-! ## Moves -/

variable {context : StepContext}

theorem lawful_pause (world : World σ) :
    (Frame.lawful settings flow).allows world
      ((clickDelay (.ofSettings settings) >>= sleepWhole) world).2 := by
  obtain ⟨ms, drew, allowed, chosen⟩ :=
    delay_eq settings settings.clickDelay world
  let between :=
    { world with drawn := world.drawn + if settings.humanize then 1 else 0 }
  have delayed : clickDelay (.ofSettings settings) world = (.ok ms, between) :=
    drew
  obtain ⟨clock, slept⟩ := sleepWhole_eq ms between
  rw [bind_of_ok delayed, slept]
  refine Frame.lawful_of_deed (.pause ms)
    (World.accounts_of_deed ?_ rfl rfl ?_ ?_) allowed
  · simp [Deed.event?, between]
  · rw [Deed.length_draws_of_some rfl]
  · rintro humanize _ _ ⟨⟩
    exact chosen humanize

theorem lawful_key (locator character : String) (world : World σ) :
    (Frame.lawful settings flow).allows world
      ((keyDelay (.ofSettings settings) >>= fun ms =>
      perform driver (.typeText locator character ms)) world).2 := by
  obtain ⟨ms, drew, allowed, chosen⟩ :=
    delay_eq settings settings.keyDelay world
  let between :=
    { world with drawn := world.drawn + if settings.humanize then 1 else 0 }
  have delayed : keyDelay (.ofSettings settings) world = (.ok ms, between) :=
    drew
  have events := perform_events driver (.typeText locator character ms) between
  obtain ⟨naps, random, drawn⟩ := World.timing_eq_iff.mp
    (timing_perform driver (.typeText locator character ms) between)
  rw [bind_of_ok delayed]
  refine Frame.lawful_of_deed (.key locator character ms)
    (World.accounts_of_deed events ?_ random ?_ ?_) allowed
  · simpa [Deed.nap?] using naps
  · rw [Deed.length_draws_of_some rfl]
    exact drawn
  · rintro humanize _ _ ⟨⟩
    exact chosen humanize

theorem lawful_rest {ms : Binary64} (allowed : flow.AllowsRest ms) :
    (sleep ms : Act σ Unit).Within (.lawful settings flow) := by
  intro world
  obtain ⟨clock, slept⟩ := sleep_eq allowed.1 world
  rw [slept]
  refine Frame.lawful_of_deed (.rest ms)
    (World.accounts_of_deed ?_ rfl rfl ?_ ?_) allowed
  · simp [Deed.event?]
  · rw [Deed.draws_of_none rfl, List.length_nil, Nat.add_zero]
  · rintro _ _ _ ⟨⟩

variable {context : StepContext}

theorem lawful_makeMove (paced : context.pacing = .ofSettings settings)
    {move : Move} (legal : move.Legal settings flow) :
    (makeMove driver context move).Within (.lawful settings flow) := by
  have telling : (Frame.lawful settings flow : Frame σ).AdmitsTelling :=
    Frame.lawful_admitsTelling
  cases move with
  | call call => exact within_bind (lawful_perform legal) fun _ => within_pure _
  | pause =>
      intro world
      rw [makeMove, paced, ← bind_assoc, snd_bind_pure]
      exact lawful_pause world
  | key locator character =>
      intro world
      rw [makeMove, paced, ← bind_assoc, snd_bind_pure]
      exact lawful_key locator character world
  | picture label =>
      refine within_bind ?_ fun _ => within_pure _
      exact within_bind (within_logger telling.toAdmitsLogging _) fun _ =>
        within_bind (within_ask _) fun _ =>
          within_bind (telling.makeDirectory _) fun _ =>
        within_bind (lawful_perform trivial) fun _ =>
          within_bind (telling.log _ _ _) fun _ =>
        within_pure _
  | check locator expected =>
      refine within_bind (lawful_perform trivial) fun found => ?_
      split
      · exact within_pure _
      · exact within_fail _
  | rest ms => exact within_bind (lawful_rest legal) fun _ => within_pure _
  | refuse reason raw => exact within_refuse _ _

end Act

/-! ## Runs -/

namespace Runner

variable {runner : Runner} {options : RunOptions}

/-- What the run of a flow does is accounted for by legal deeds, if its steps
are described by what they were read from. -/
theorem lawful_runFlow (paced : runner.pacing = .ofSettings runner.settings)
    (sound : ∀ step ∈ flow.steps, ¬ step.isMalformed → ∃ tag,
      Step.Valid step.raw tag step) :
    (runner.runFlow driver options flow).Within
      (.lawful runner.settings flow) := by
  have telling : (Frame.lawful runner.settings flow : Frame σ).AdmitsTelling :=
    Frame.lawful_admitsTelling
  have reports (parts : List Markup.Part) :
      (report options parts).Within (.lawful runner.settings flow : Frame σ) :=
    within_report telling parts
  have executes (step : Step) (member : step ∈ flow.steps) :
      (execute driver (runner.contextFor options flow) step).Within
        (.lawful runner.settings flow) :=
    within_execute_of_carryOut telling.toAdmitsLogging <|
      within_carryOut_of_each telling.toAdmitsLogging fun move among =>
        lawful_makeMove paced
          (step.moves_legal member (sound step member) _ move among)
  have submitting (record : RunRecord) :
      (submit runner.recorder record).Within
        (.lawful runner.settings flow : Frame σ) :=
    fun world =>
    Frame.lawful_of_idle
      (keeping_submit (fun _ _ _ _ _ => rfl) runner.recorder record world)
  refine within_runFlow_of_session telling.toAdmitsLogging reports submitting
    fun log => ?_
  exact within_withSession_of (lawful_reply (.opened _) trivial _)
    (lawful_reply .closed trivial _)
    (within_runSteps_of_each telling.toAdmitsLogging reports executes _ _ _ _)

theorem lawful_run (paced : runner.pacing = .ofSettings runner.settings)
    (sound : ∀ step ∈ flow.steps, ¬ step.isMalformed → ∃ tag,
      Step.Valid step.raw tag step) {source : FlowSource}
    (loads : loadFlow source before = (.ok flow, before)) :
    (Frame.lawful runner.settings flow).allows before
      (runner.run driver options source before).2 := by
  have telling : (Frame.lawful runner.settings flow : Frame σ).AdmitsTelling :=
    Frame.lawful_admitsTelling
  have printed (result : RunResult) : (do
      if options.json then
        let time ← now
        printDocument (Report.document (Calendar.stampText time) result)
      return result :
        Act σ RunResult).Within (.lawful runner.settings flow) := by
    split
    · exact within_bind (within_ask _) fun _ =>
        within_bind (telling.print _) fun _ => within_pure _
    · exact within_pure _
  have ran : (Frame.lawful runner.settings flow).allows before
      (runner.runSource driver options source before).2 := by
    rw [runSource, bind_of_ok loads]
    exact lawful_runFlow paced sound before
  exact (Frame.lawful runner.settings flow).trans ran
    (allows_of_bind _ printed before)

end Runner

end Lawful

namespace Runner

/-- Settings that can be read have their times as they were given, and a run
under them with their delays is accounted for by legal deeds: every time limit
is an integer that is not below zero, and every delay lies within the bounds
that were given. Without delays no random number is used. There is always a
number between the bounds, so that no delay raises a fault. -/
theorem run_keeps_to_bounds {given : List (String × Value)}
    {environment here : Environment} {files : FileSystem} {settings : Settings}
    (read : Settings.read given environment files = .ok settings)
    {name : String} {value : Value} {flow : Flow}
    (accepted : Flow.ofValue here name value = .ok flow) (driver : Driver σ)
    (recorder : Recorder) (options : RunOptions) {source : FlowSource}
    {world : World σ} (loads : loadFlow source world = (.ok flow, world)) :
    let pacing := Pacing.ofSettings settings
    let after :=
      (Runner.run ⟨settings, recorder, pacing⟩ driver options source world).2
    (∃ source : SettingsSource,
      source.given = given ∧ source.environment = environment ∧
      Settings.fileEntries files environment = .ok source.file ∧
        settings.Times source) ∧
    (∃ deeds, world.Accounts settings deeds after ∧
      ∀ deed ∈ deeds, deed.Legal settings flow) ∧
    (settings.humanize = false → after.drawn = world.drawn) ∧
    ∀ fault : Fault,
      (clickDelay pacing : Act σ Int) =
        (if settings.humanize then drawBetween fault settings.clickDelay.least
          settings.clickDelay.most
        else pure 0) ∧
      (keyDelay pacing : Act σ Int) =
        (if settings.humanize then drawBetween fault settings.keyDelay.least
          settings.keyDelay.most
        else pure 0) := by
  intro pacing after
  let runner : Runner := ⟨settings, recorder, pacing⟩
  have lawful : (Frame.lawful runner.settings flow).allows world after :=
    lawful_run rfl (Flow.valid_of_ofValue accepted) loads
  refine ⟨Settings.times_of_read read, lawful, fun plain => ?_, fun fault =>
    ⟨delay_eq_drawBetween fault _ _, delay_eq_drawBetween fault _ _⟩⟩
  obtain ⟨deeds, accounts, -⟩ := lawful
  have drawn : after.drawn = world.drawn + (Deed.draws settings deeds).length :=
    accounts.drawn
  have none : Deed.draws settings deeds = [] := by simp [Deed.draws, plain]
  rw [drawn, none, List.length_nil, Nat.add_zero]

/-- Delays between three and nine milliseconds. -/
private def brisk : Environment :=
  ⟨[("HUMANIZE", "on"), ("CLICK_DELAY_MIN_MS", "3"),
    ("CLICK_DELAY_MAX_MS", "5"), ("KEY_DELAY_MIN_MS", "7"),
    ("KEY_DELAY_MAX_MS", "9"), ("SCREENSHOT_DIR", "/")]⟩

/-- A click, and a text of two keys behind a limit of zero. -/
private def spelling : Value :=
  .dict [(.text "name", .text "Spelling"), (.text "steps", .list [
    .dict [(.text "click", .text "#a")],
    .dict [(.text "type", .text "#b"), (.text "text", .text "xy"),
      (.text "timeoutMs", .text "0")]])]


/-- The click waits for 3 ms and the keys for 8 ms and 9 ms, as the random
numbers 0, 1 and 2 have it. The limit of the first step is the usual one, that
of the second one is zero. -/
theorem run_keeps_to_bounds_spelling :
    let options : RunOptions := { RunOptions.none with json := true }
    let world :=
      { World.rehearsal .plain ⟨[], []⟩ with random := fun index => index }
    ∃ settings flow, Settings.read [] brisk ⟨[], []⟩ = .ok settings ∧
      Flow.ofValue brisk "Spelling" spelling = .ok flow ∧
      let runner : Runner := ⟨settings, .absent, .ofSettings settings⟩
      let after := (runner.run Script.plain.driver options (.flow flow) world).2
      after.events = [.opened true, .called (.waitFor "#a" .visible 10000),
        .called (.click "#a"), .called (.waitFor "#b" .visible 0),
        .called (.click "#b"), .called (.clear "#b"),
        .called (.typeText "#b" "x" 8),
        .called (.typeText "#b" "y" 9), .closed] ∧
      after.drawn = 3 ∧ settings.humanize ∧
      ∃ deeds, world.Accounts settings deeds after ∧
        ∀ deed ∈ deeds, deed.Legal settings flow := by
  intro options world
  have facts : (Settings.read [] brisk ⟨[], []⟩).toOption.bind (fun settings =>
      (Flow.ofValue brisk "Spelling" spelling).toOption.map fun flow =>
        let after :=
          (Runner.run ⟨settings, .absent, .ofSettings settings⟩
            Script.plain.driver options (.flow flow) world).2
        (after.events, after.drawn, settings.humanize)) =
      some ([.opened true, .called (.waitFor "#a" .visible 10000),
        .called (.click "#a"), .called (.waitFor "#b" .visible 0),
        .called (.click "#b"), .called (.clear "#b"),
        .called (.typeText "#b" "x" 8), .called (.typeText "#b" "y" 9),
        .closed], 3, true) := by
    decide +kernel
  obtain ⟨settings, found, facts⟩ := Option.bind_eq_some_iff.mp facts
  obtain ⟨flow, made, facts⟩ := Option.map_eq_some_iff.mp facts
  have read := eq_ok_of_toOption found
  have accepted := eq_ok_of_toOption made
  obtain ⟨events, others⟩ := Prod.mk.inj facts
  obtain ⟨drawn, humanize⟩ := Prod.mk.inj others
  obtain ⟨-, lawful, -⟩ :=
    run_keeps_to_bounds read accepted Script.plain.driver .absent options
      (show loadFlow (.flow flow) world = (.ok flow, world) from rfl)
  exact ⟨settings, flow, read, accepted, events, drawn, humanize, lawful⟩

end Runner

end PageFlow
