import Mathlib.Data.Nat.Basic
import Mathlib.Order.Basic
import PageFlow.Proofs.Frame
import PageFlow.Proofs.LogContexts
import PageFlow.Proofs.LogSetup
import PageFlow.Proofs.Rehearsal

/-!
# Bound contexts

What the records of loggers carry when loggers are made, scoped and used between
bindings. A plain logger carries what is bound when it is used. A scoped logger
carries the values that it and its parents were made with, and besides what was
bound when the first of them was made; it does not follow later bindings. Making
a scoped logger changes nothing for all others.
-/

namespace PageFlow

open Act

variable {σ : Type}

/-! ## Requests -/

/-- What is asked of the log. A logger is known by the place of the request that
made it among all requests. -/
inductive LogRequest where
  | bind (values : LogContext)
  | unbind (names : List String)
  | get (name : String)
  | scope (parent : Nat) (values : LogContext)
  | log (maker : Nat) (level : LogLevel) (message : String)

namespace LogRequest

/-- Serves a request, and gives the logger that it has made, if it makes one.
`made` are the loggers of the requests before it. -/
def serve (made : List (Option Logger)) : LogRequest → Act σ (Option Logger)
  | .bind values => do
    change fun world => { world with log := world.log.bind values }
    return none
  | .unbind names => do
    change fun world => { world with log := world.log.unbind names }
    return none
  | .get name => do
    let plain ← logger name
    return some plain
  | .scope parent values =>
    match made.getD parent none with
    | none => return none
    | some parent => do
      let extended ← withContext parent values
      return some extended
  | .log maker level message =>
    match made.getD maker none with
    | none => return none
    | some used => do
      Act.log used level message
      return none

def serveAll :
    List LogRequest → List (Option Logger) → Act σ (List (Option Logger))
  | [], made => return made
  | request :: rest, made => do
    let latest ← request.serve made
    serveAll rest (made ++ [latest])

def Uses (place : Nat) : LogRequest → Prop
  | .scope parent _ => parent = place
  | .log maker _ _ => maker = place
  | _ => False

/-! ## What is to be carried -/

/-- What a request tells of a name: its value, that it is bound no longer, or
nothing. -/
def tells? (name : String) : LogRequest → Option (Option Json)
  | .bind values => (Json.find? values.reverse name).map some
  | .unbind names => if name ∈ names then some none else none
  | _ => none

/-- What a name is bound to behind some requests: what the last one of them
tells that tells anything of it. -/
def boundTo (requests : List LogRequest) (name : String) : Option Json :=
  (requests.reverse.findSome? (tells? name)).join

/-- The logger of a place was built by scoping a plain one time and again: the
places at which that was done, and the values that were given, in the order in
which it was done. -/
inductive Builds (requests : List LogRequest) :
    Nat → List (Nat × LogContext) → Prop where
  | plain {maker : Nat} {name : String} :
      requests[maker]? = some (.get name) →
      Builds requests maker []
  | scope {maker parent : Nat} {values : LogContext}
      {scopes : List (Nat × LogContext)} :
      requests[maker]? = some (.scope parent values) →
      parent < maker →
      Builds requests parent scopes →
      Builds requests maker (scopes ++ [(maker, values)])

/-- The value of a name among those that a logger was built with; the last one
given counts. -/
def given (scopes : List (Nat × LogContext)) (name : String) : Option Json :=
  scopes.reverse.findSome? fun scope => Json.find? scope.2.reverse name

/-- The value of a name that was bound when a logger was first scoped; or else
at the next time, and so on. -/
def boundBefore (requests : List LogRequest) (scopes : List (Nat × LogContext))
    (name : String) : Option Json :=
  scopes.findSome? fun scope => boundTo (requests.take scope.1) name

/-- What a record carries under a name that a logger writes at some time: the
value that the logger was built with, or else what is bound, for a scoped logger
when it was scoped. -/
def carried (requests : List LogRequest) (time : Nat)
    (scopes : List (Nat × LogContext)) (name : String) : Option Json :=
  (given scopes name).or
    (if scopes = [] then boundTo (requests.take time) name
      else boundBefore requests scopes name)

theorem boundTo_concat (requests : List LogRequest) (request : LogRequest)
    (name : String) :
    boundTo (requests ++ [request]) name =
      ((request.tells? name).getD (boundTo requests name)) := by
  rw [boundTo, List.reverse_append, List.reverse_singleton,
    List.singleton_append, List.findSome?_cons]
  cases request.tells? name <;> rfl

theorem given_concat (scopes : List (Nat × LogContext))
    (scope : Nat × LogContext) (name : String) :
    given (scopes ++ [scope]) name = (Json.find? scope.2.reverse name).or
      (given scopes name) := by
  rw [given, List.reverse_append, List.reverse_singleton, List.singleton_append,
    List.findSome?_cons]
  cases Json.find? scope.2.reverse name <;> rfl

theorem boundBefore_concat (requests : List LogRequest)
    (scopes : List (Nat × LogContext)) (scope : Nat × LogContext)
    (name : String) :
    boundBefore requests (scopes ++ [scope]) name =
      (boundBefore requests scopes name).or
        (boundTo (requests.take scope.1) name) := by
  rw [boundBefore, List.findSome?_append, List.findSome?_cons,
    List.findSome?_nil]
  cases boundTo (requests.take scope.1) name <;> rfl

/-- Scoping a logger puts new values before those that it carries, and what is
bound behind them. -/
theorem carried_scope (requests : List LogRequest) (time : Nat)
    (scopes : List (Nat × LogContext)) (values : LogContext) (name : String) :
    (Json.find? values.reverse name).or
        ((carried requests time scopes name).or
          (boundTo (requests.take time) name)) =
      (given (scopes ++ [(time, values)]) name).or
        (boundBefore requests (scopes ++ [(time, values)]) name) := by
  rw [given_concat, boundBefore_concat, carried, Option.or_assoc]
  by_cases plain : scopes = []
  · rw [if_pos plain, plain]
    cases Json.find? values.reverse name <;>
      cases boundTo (requests.take time) name <;> rfl
  · rw [if_neg plain, Option.or_assoc]

/-- A request asks for a logger. -/
def Makes : LogRequest → Prop
  | .get _ => True
  | .scope _ _ => True
  | _ => False

namespace Builds

variable {requests : List LogRequest} {maker : Nat}
  {scopes others : List (Nat × LogContext)}

theorem makes {request : LogRequest} (built : Builds requests maker scopes)
    (asked : requests[maker]? = some request) : request.Makes := by
  cases built with
  | plain other =>
      cases asked.symm.trans other
      trivial
  | scope other _ _ =>
      cases asked.symm.trans other
      trivial

theorem unique (built : Builds requests maker scopes)
    (again : Builds requests maker others) : others = scopes := by
  induction built generalizing others with
  | plain asked =>
      cases again with
      | plain _ => rfl
      | scope other _ _ => cases asked.symm.trans other
  | scope asked _ _ induction =>
      cases again with
      | plain other => cases asked.symm.trans other
      | scope other _ inner =>
          cases asked.symm.trans other
          rw [induction inner]

/-- A logger is scoped before it is used, and not before it was first scoped. -/
theorem place_le (built : Builds requests maker scopes) :
    ∀ scope ∈ scopes, scope.1 ≤ maker := by
  induction built with
  | plain _ => simp
  | scope _ earlier _ induction =>
      intro scope among
      rcases List.mem_append.mp among with before | last
      · exact (induction scope before).trans earlier.le
      · rw [List.mem_singleton.mp last]

theorem le_place (built : Builds requests maker scopes) :
    ∀ first rest, scopes = first :: rest → ∀ scope ∈ scopes,
      first.1 ≤ scope.1 := by
  induction built with
  | plain _ => simp
  | @scope maker parent values scopes _ earlier inner induction =>
      rintro first rest split scope among
      cases scopes with
      | nil =>
          cases split
          rw [List.mem_singleton.mp among]
      | cons head tail =>
          cases split
          rcases List.mem_append.mp among with before | last
          · exact induction _ _ rfl scope before
          · rw [List.mem_singleton.mp last]
            exact (inner.place_le first List.mem_cons_self).trans earlier.le

end Builds

theorem boundTo_take_of_silent {requests : List LogRequest} {name : String}
    {early late : Nat} (before : early ≤ late)
    (silent : ∀ request ∈ (requests.take late).drop early,
      request.tells? name = none) :
    boundTo (requests.take late) name = boundTo (requests.take early) name := by
  have split :
      requests.take late = requests.take early ++
        (requests.take late).drop early := by
    conv_lhs => rw [← List.take_append_drop early (requests.take late),
      List.take_take, Nat.min_eq_left before]
  have none :
      ((requests.take late).drop early).reverse.findSome?
        (tells? name) = none :=
    List.findSome?_eq_none_iff.mpr fun request among =>
      silent request (List.mem_reverse.mp among)
  rw [boundTo, split, List.reverse_append, List.findSome?_append, none]
  rfl

/-- As long as nothing is said of a name since a logger was first scoped, the
logger carries what is bound. -/
theorem carried_of_silent {requests : List LogRequest} {maker time : Nat}
    {scopes : List (Nat × LogContext)} {name : String}
    (built : Builds requests maker scopes) (used : maker < time)
    (silent : ∀ scope ∈ scopes.head?,
      ∀ request ∈ (requests.take time).drop scope.1, request.tells? name = none)
    :
    carried requests time scopes name =
      (given scopes name).or (boundTo (requests.take time) name) := by
  cases scopes with
  | nil => rfl
  | cons first rest =>
      have unchanged : ∀ scope ∈ first :: rest,
          boundTo (requests.take scope.1) name =
            boundTo (requests.take time) name := by
        intro scope among
        refine (boundTo_take_of_silent
          ((built.place_le scope among).trans used.le) ?_).symm
        intro request later
        have behind := built.le_place first rest rfl scope among
        exact silent first rfl request
          (List.drop_subset_drop_left _ behind later)
      have before : boundBefore requests (first :: rest) name =
          boundTo (requests.take time) name := by
        rw [boundBefore, List.findSome?_cons,
          unchanged first List.mem_cons_self]
        cases now : boundTo (requests.take time) name with
        | some value => rfl
        | none =>
            refine List.findSome?_eq_none_iff.mpr fun scope among => ?_
            rw [unchanged scope (List.mem_cons_of_mem _ among), now]
      rw [carried, if_neg (List.cons_ne_nil first rest), before]

/-! ## Loggers -/

/-- A logger stands for what it was built with. -/
inductive Carries (requests : List LogRequest) :
    Logger → List (Nat × LogContext) → Prop where
  | plain (name : String) : Carries requests (Logger.named name) []
  | scope {name : String} {context : LogContext}
      {scopes : List (Nat × LogContext)} :
      scopes ≠ [] →
      context.Distinct →
      (∀ name, Json.find? context name =
        (given scopes name).or (boundBefore requests scopes name)) →
      Carries requests ⟨name, .fixed context⟩ scopes

/-- The log and the loggers behind the first requests. -/
structure Keeps (requests : List LogRequest) (time : Nat)
    (made : List (Option Logger)) (log : Log) : Prop where
  length : made.length = time
  distinct : log.bound.Distinct
  bound : ∀ name, Json.find? log.bound name = boundTo (requests.take time) name
  carries : ∀ maker logger, made.getD maker none = some logger →
    log.threshold.isSome ∧ ∃ scopes,
      Builds requests maker scopes ∧ Carries requests logger scopes
  complete : ∀ maker scopes, maker < time → Builds requests maker scopes →
    (made.getD maker none).isSome

theorem Keeps.find? {requests : List LogRequest} {time : Nat}
    {made : List (Option Logger)} {log : Log}
    (keeps : Keeps requests time made log) {logger : Logger}
    {scopes : List (Nat × LogContext)}
    (carries : Carries requests logger scopes) :
    (log.contextOf logger).Distinct ∧
      ∀ name, Json.find? (log.contextOf logger) name =
        carried requests time scopes name := by
  cases carries with
  | plain _ => exact ⟨keeps.distinct, keeps.bound⟩
  | scope some distinct found =>
      refine ⟨distinct, fun name => (found name).trans ?_⟩
      rw [carried, if_neg some]

/-- What a request has written: nothing, unless it is for a record of a
logger. -/
structure Written (requests : List LogRequest) (time : Nat) (log : Log)
    (request : LogRequest) (records : List LogRecord) : Prop where
  sound : ∀ record ∈ records, ∃ maker scopes,
    request = .log maker record.level record.message ∧ maker < time ∧
      Builds requests maker scopes ∧
      ∀ name, Json.find? record.context name = carried requests time scopes name
  complete : ∀ maker level message scopes, request = .log maker level message →
    maker < time →
    Builds requests maker scopes → log.admits level = true → records.length = 1

theorem getD_concat (made : List (Option Logger)) (latest : Option Logger)
    (maker : Nat) :
    (made ++ [latest]).getD maker none =
      if maker = made.length then latest else made.getD maker none := by
  rw [List.getD_eq_getElem?_getD, List.getD_eq_getElem?_getD]
  obtain before | rfl | behind := Nat.lt_trichotomy maker made.length
  · rw [List.getElem?_append_left before, if_neg before.ne]
  · rw [List.getElem?_concat_length, if_pos rfl]
    rfl
  · have beyond : (made ++ [latest]).length ≤ maker := by
      rw [List.length_append]
      exact behind
    rw [List.getElem?_eq_none beyond, if_neg behind.ne',
      List.getElem?_eq_none behind.le]

section Serving

variable {requests : List LogRequest} {time : Nat} {made : List (Option Logger)}
  {request : LogRequest} {latest : Option Logger} {world after : World σ}
  {log later : Log}

theorem Keeps.lt_of_made (keeps : Keeps requests time made log) {maker : Nat}
    {logger : Logger} (present : made.getD maker none = some logger) :
    maker < time := by
  by_contra beyond
  rw [List.getD_eq_getElem?_getD,
    List.getElem?_eq_none (by rw [keeps.length]; omega)] at present
  cases present

/-- A request adds what it tells to what is bound, and the logger that it makes
to the others. -/
theorem Keeps.next (keeps : Keeps requests time made log)
    (asked : requests[time]? = some request) (distinct : later.bound.Distinct)
    (bound : ∀ name, Json.find? later.bound name =
      (request.tells? name).getD (Json.find? log.bound name))
    (ready : log.threshold.isSome → later.threshold.isSome)
    (carries : ∀ logger, latest = some logger → later.threshold.isSome ∧
      ∃ scopes, Builds requests time scopes ∧ Carries requests logger scopes)
    (complete : ∀ scopes, Builds requests time scopes → latest.isSome) :
    Keeps requests (time + 1) (made ++ [latest]) later where
  length := by rw [List.length_append, keeps.length, List.length_singleton]
  distinct := distinct
  bound name := by
    have taken :
        requests.take (time + 1) = requests.take time ++ [request] := by
      rw [List.take_add_one, asked]
      rfl
    rw [bound, keeps.bound, taken, boundTo_concat]
  carries maker logger present := by
    rw [getD_concat, keeps.length] at present
    by_cases last : maker = time
    · rw [if_pos last] at present
      rw [last]
      exact carries logger present
    · rw [if_neg last] at present
      exact ⟨ready (keeps.carries maker logger present).1,
        (keeps.carries maker logger present).2⟩
  complete maker scopes before built := by
    rw [getD_concat, keeps.length]
    by_cases last : maker = time
    · rw [if_pos last]
      exact complete scopes (last ▸ built)
    · rw [if_neg last]
      exact keeps.complete maker scopes (by omega) built

/-- What a request comes to: the log and the loggers are in accord with it, and
its record is written. -/
structure Settled (requests : List LogRequest) (time : Nat)
    (made : List (Option Logger)) (request : LogRequest) (log later : Log)
    (latest : Option Logger) : Prop where
  keeps : Keeps requests (time + 1) (made ++ [latest]) later
  threshold : log.threshold.isSome → later.threshold = log.threshold
  written : ∃ records, later.records = log.records ++ records ∧
    Written requests time later request records

theorem settled_of_silent
    (keeps : Keeps requests (time + 1) (made ++ [latest]) later)
    (threshold : log.threshold.isSome → later.threshold = log.threshold)
    (records : later.records = log.records)
    (other : ∀ maker level message, request ≠ .log maker level message) :
    Settled requests time made request log later latest where
  keeps := keeps
  threshold := threshold
  written := by
    refine ⟨[], by rw [records, List.append_nil], List.forall_mem_nil _, ?_⟩
    exact fun maker level message _ same =>
      absurd same (other maker level message)

theorem Keeps.serve_get (keeps : Keeps requests time made world.log)
    {name : String} (asked : requests[time]? = some (.get name))
    (served : (LogRequest.get name).serve made world = (.ok latest, after)) :
    Settled requests time made (.get name) world.log after.log latest := by
  obtain ⟨plain, between, got, rest⟩ := bind_eq_ok.mp served
  obtain ⟨_, begun, ready, named⟩ := bind_eq_ok.mp got
  cases named
  cases rest
  obtain ⟨bound, records, threshold⟩ := log_of_setUpLog ready
  have set := isSome_of_setUpLog ready
  refine settled_of_silent
    (keeps.next asked (bound ▸ keeps.distinct) (fun _ => ?_) (fun _ => set) ?_
      fun _ _ => rfl) threshold records (by simp)
  · rw [bound]
    rfl
  · rintro _ ⟨⟩
    exact ⟨set, [], .plain asked, .plain name⟩

theorem Keeps.serve_scope (keeps : Keeps requests time made world.log)
    {parent : Nat} {values : LogContext}
    (asked : requests[time]? = some (.scope parent values))
    (served : (LogRequest.scope parent values).serve made world =
      (.ok latest, after)) :
    Settled requests time made (.scope parent values) world.log
      after.log latest := by
  rw [LogRequest.serve] at served
  cases parented : made.getD parent none with
  | none =>
      rw [parented] at served
      cases served
      refine settled_of_silent
        (keeps.next asked keeps.distinct (fun _ => rfl) id (by simp) ?_)
        (fun _ => rfl) rfl (by simp)
      rintro scopes (other | ⟨other, earlier, inner⟩) <;>
        cases asked.symm.trans other
      have known := keeps.complete parent _ earlier inner
      rw [parented] at known
      cases known
  | some logger =>
      rw [parented] at served
      cases served
      obtain ⟨ready, scopes, built, carries⟩ :=
        keeps.carries parent logger parented
      obtain ⟨distinct, found⟩ := keeps.find? carries
      refine settled_of_silent
        (keeps.next asked keeps.distinct (fun _ => rfl) id ?_ fun _ _ => rfl)
        (fun _ => rfl) rfl (by simp)
      rintro _ ⟨⟩
      refine ⟨ready, scopes ++ [(time, values)],
        .scope asked (keeps.lt_of_made parented) built, ?_⟩
      refine .scope (by simp)
        (Log.distinct_withContext keeps.distinct logger values) fun name => ?_
      rw [← carried_scope requests time scopes values, ← found, ← keeps.bound]
      exact Log.find?_withContext distinct values name

theorem Keeps.serve_log (keeps : Keeps requests time made world.log)
    {maker : Nat} {level : LogLevel} {message : String}
    (asked : requests[time]? = some (.log maker level message))
    (served : (LogRequest.log maker level message).serve made world =
      (.ok latest, after)) :
    Settled requests time made (.log maker level message) world.log
      after.log latest := by
  have unbuilt (scopes : List (Nat × LogContext))
      (built : Builds requests time scopes) :
      latest.isSome := False.elim (built.makes asked)
  rw [LogRequest.serve] at served
  cases used : made.getD maker none with
  | none =>
      rw [used] at served
      cases served
      refine ⟨keeps.next asked keeps.distinct (fun _ => rfl) id (by simp)
        unbuilt, fun _ => rfl, [], (List.append_nil _).symm,
        List.forall_mem_nil _, ?_⟩
      rintro _ _ _ scopes ⟨⟩ earlier built _
      have known := keeps.complete maker scopes earlier built
      rw [used] at known
      cases known
  | some logger =>
      rw [used] at served
      obtain ⟨ready, scopes, built, carries⟩ := keeps.carries maker logger used
      obtain ⟨-, found⟩ := keeps.find? carries
      obtain ⟨_, between, told, rest⟩ := bind_eq_ok.mp served
      cases rest
      by_cases admitted : world.log.admits level
      · rw [Act.log, change_apply, if_pos admitted] at told
        cases told
        refine ⟨keeps.next asked keeps.distinct (fun _ => rfl) id (by simp)
          unbuilt, fun _ => rfl, [world.log.recordOf logger level message], rfl,
          ?_, fun _ _ _ _ _ _ _ _ => rfl⟩
        intro record among
        cases List.mem_singleton.mp among
        exact ⟨maker, scopes, rfl, keeps.lt_of_made used, built, found⟩
      · rw [Act.log, change_apply, if_neg admitted] at told
        cases told
        refine ⟨keeps.next asked keeps.distinct (fun _ => rfl) id (by simp)
          unbuilt, fun _ => rfl, [], (List.append_nil _).symm,
          List.forall_mem_nil _, ?_⟩
        rintro _ _ _ _ ⟨⟩ _ _ admits
        exact absurd admits admitted

/-- Each request keeps the log and the loggers in accord with what was asked,
and writes its record. -/
theorem Keeps.serve (keeps : Keeps requests time made world.log)
    (asked : requests[time]? = some request)
    (served : request.serve made world = (.ok latest, after)) :
    Settled requests time made request world.log after.log latest := by
  cases request with
  | bind values =>
      cases served
      refine settled_of_silent
        (keeps.next asked (keeps.distinct.merge values) (fun name => ?_) id
          (by simp) fun _ built => False.elim (built.makes asked))
        (fun _ => rfl) rfl (by simp)
      change Json.find? (world.log.bound.merge values) name = _
      rw [LogContext.find?_merge, tells?]
      cases Json.find? values.reverse name <;> rfl
  | unbind names =>
      cases served
      refine settled_of_silent
        (keeps.next asked (keeps.distinct.without names) (fun name => ?_) id
          (by simp) fun _ built => False.elim (built.makes asked))
        (fun _ => rfl) rfl (by simp)
      change Json.find? (world.log.bound.without names) name = _
      rw [LogContext.find?_without, tells?]
      split <;> rfl
  | get name => exact keeps.serve_get asked served
  | scope parent values => exact keeps.serve_scope asked served
  | log maker level message => exact keeps.serve_log asked served

/-- The first of the requests that are left is the one of its time. -/
theorem asked_of_drop {rest : List LogRequest}
    (left : requests.drop time = request :: rest) :
    requests[time]? = some request ∧ requests.drop (time + 1) = rest := by
  rw [← List.head?_drop, ← List.drop_drop, left]
  exact ⟨rfl, rfl⟩

/-- The requests that are left keep the log and the loggers in accord, and each
writes its record. -/
theorem Keeps.serveAll {rest : List LogRequest} {final : List (Option Logger)}
    (keeps : Keeps requests time made world.log)
    (left : requests.drop time = rest)
    (served : serveAll rest made world = (.ok final, after)) :
    (world.log.threshold.isSome → after.log.threshold = world.log.threshold) ∧
      ∃ written : List (List LogRecord), written.length = rest.length ∧
        after.log.records = world.log.records ++ written.flatten ∧
        ∀ index request records, rest[index]? = some request →
          written[index]? = some records →
          Written requests (time + index) after.log request records := by
  -- What is left of the requests shrinks while the loggers behind the earlier
  -- ones grow.
  induction rest generalizing time made world with
  | nil =>
      cases served
      exact ⟨fun _ => rfl, [], rfl, (List.append_nil _).symm, nofun⟩
  | cons request rest induction =>
      obtain ⟨latest, between, first, later⟩ := bind_eq_ok.mp served
      obtain ⟨asked, behind⟩ := asked_of_drop left
      obtain ⟨kept, threshold, records, extended, spoken⟩ :=
        keeps.serve asked first
      obtain ⟨unmoved, written, length, grown, each⟩ :=
        induction kept behind later
      refine ⟨fun set => ?_, records :: written,
        congrArg (· + 1) length, ?_, ?_⟩
      · rw [unmoved (threshold set ▸ set), threshold set]
      · rw [grown, extended, List.flatten_cons, List.append_assoc]
      · rintro (_ | index) other told present writes
        · cases present
          cases writes
          refine ⟨spoken.sound,
            fun maker level message scopes same earlier built admits => ?_⟩
          obtain ⟨logger, used⟩ :=
            Option.isSome_iff_exists.mp
              (keeps.complete maker scopes earlier built)
          have set := (keeps.carries maker logger used).1
          have level_admitted : between.log.admits level = true := by
            rwa [Log.admits, unmoved (threshold set ▸ set)] at admits
          exact spoken.complete maker level message scopes same earlier built
            level_admitted
        · have place : time + (index + 1) = time + 1 + index := by omega
          rw [place]
          exact each index other told present writes

/-- Where the log can be set up, a request is served, and the log can be set up
behind it. -/
theorem Keeps.exists_serve (keeps : Keeps requests time made world.log)
    (ready : (setUpLog world).1 = .ok ()) (request : LogRequest) :
    ∃ latest after, request.serve made world = (.ok latest, after) ∧
      (setUpLog after).1 = .ok () := by
  cases request with
  | bind values => exact ⟨none, _, rfl, (setUpLog_rebound world _).trans ready⟩
  | unbind names => exact ⟨none, _, rfl, (setUpLog_rebound world _).trans ready⟩
  | get name =>
      have done : setUpLog world = (.ok (), (setUpLog world).2) :=
        Prod.ext ready rfl
      refine ⟨some (Logger.named name), (setUpLog world).2, ?_, ?_⟩
      · exact bind_of_ok (bind_of_ok done)
      · rw [setUpLog_of_isSome (isSome_of_setUpLog done)]
  | scope parent values =>
      rw [LogRequest.serve]
      cases made.getD parent none with
      | none => exact ⟨none, world, rfl, ready⟩
      | some logger =>
          exact ⟨some (world.log.withContext logger values), world, rfl, ready⟩
  | log maker level message =>
      rw [LogRequest.serve]
      cases used : made.getD maker none with
      | none => exact ⟨none, world, rfl, ready⟩
      | some logger =>
          obtain ⟨set, -⟩ := keeps.carries maker logger used
          have later (told : World σ)
              (kept : told.log.threshold = world.log.threshold) :
              (setUpLog told).1 = .ok () := by
            rw [setUpLog_of_isSome (kept ▸ set)]
          refine ⟨none, _, bind_of_ok (change_apply _ world), later _ ?_⟩
          split <;> rfl

theorem Keeps.exists_serveAll {rest : List LogRequest}
    (keeps : Keeps requests time made world.log)
    (ready : (setUpLog world).1 = .ok ()) (left : requests.drop time = rest) :
    ∃ final after,
      LogRequest.serveAll rest made world = (.ok final, after) := by
  induction rest generalizing time made world with
  | nil => exact ⟨made, world, rfl⟩
  | cons request rest induction =>
      obtain ⟨asked, behind⟩ := asked_of_drop left
      obtain ⟨latest, between, served, stays⟩ :=
        keeps.exists_serve ready request
      obtain ⟨final, after, later⟩ :=
        induction (keeps.serve asked served).keeps stays behind
      exact ⟨final, after, (bind_of_ok served).trans later⟩

theorem keeps_start (unbound : log.bound = []) : Keeps requests 0 [] log where
  length := rfl
  distinct := unbound ▸ LogContext.distinct_nil
  bound _ := by
    rw [unbound]
    rfl
  carries := nofun
  complete _ _ before := absurd before (Nat.not_lt_zero _)

/-! ## Unused loggers -/

/-- A logger that is not used by a request might as well not be there. -/
theorem serve_of_unused {place : Nat} (unused : ¬ request.Uses place)
    {twin : List (Option Logger)}
    (same : ∀ maker,
      maker ≠ place → made.getD maker none = twin.getD maker none) :
    (request.serve made : Act σ (Option Logger)) = request.serve twin := by
  cases request with
  | bind values => rfl
  | unbind names => rfl
  | get name => rfl
  | scope parent values => rw [serve, serve, same parent unused]
  | log maker level message => rw [serve, serve, same maker unused]

theorem serveAll_of_unused {place : Nat} {rest : List LogRequest}
    (unused : ∀ request ∈ rest, ¬ request.Uses place)
    {twin : List (Option Logger)} (length : made.length = twin.length)
    (same : ∀ maker,
      maker ≠ place → made.getD maker none = twin.getD maker none) :
    (LogRequest.serveAll rest made world).2 =
      (LogRequest.serveAll rest twin world).2 := by
  induction rest generalizing made twin world with
  | nil => rfl
  | cons request rest induction =>
      obtain ⟨first, later⟩ := List.forall_mem_cons.mp unused
      have serving :
          (request.serve made : Act σ (Option Logger)) = request.serve twin :=
        serve_of_unused first same
      rcases served : (request.serve twin : Act σ (Option Logger)) world
        with ⟨fault | latest, between⟩
      · rw [LogRequest.serveAll, LogRequest.serveAll, serving,
          bind_of_error served, bind_of_error served]
      · rw [LogRequest.serveAll, LogRequest.serveAll, serving,
          bind_of_ok served, bind_of_ok served]
        refine induction later (by simp [length]) fun maker apart => ?_
        rw [getD_concat, getD_concat, length, same maker apart]

theorem serveAll_append (first rest : List LogRequest)
    (made : List (Option Logger)) :
    (LogRequest.serveAll (first ++ rest) made : Act σ (List (Option Logger))) =
      (do
      let between ← LogRequest.serveAll first made
      LogRequest.serveAll rest between) := by
  induction first generalizing made with
  | nil => simp [LogRequest.serveAll]
  | cons request first induction => simp [LogRequest.serveAll, induction]

theorem length_of_serveAll {rest : List LogRequest}
    {final : List (Option Logger)}
    (served : LogRequest.serveAll rest made world = (.ok final, after)) :
    final.length = made.length + rest.length := by
  induction rest generalizing made world with
  | nil =>
      cases served
      rfl
  | cons request rest induction =>
      obtain ⟨latest, between, _, later⟩ := bind_eq_ok.mp served
      rw [induction later, List.length_append, List.length_singleton,
        List.length_cons]
      omega

/-- Whether a logger is scoped or not, the world is the same behind all requests
that do not use the new logger. -/
theorem serveAll_scope_unused {parent : Nat} {values : LogContext}
    {first rest : List LogRequest}
    (unused : ∀ request ∈ rest, ¬ request.Uses first.length) (world : World σ) :
    (LogRequest.serveAll (first ++ .scope parent values :: rest) [] world).2 =
      (LogRequest.serveAll (first ++ .unbind [] :: rest) [] world).2 := by
  rw [serveAll_append, serveAll_append]
  rcases begun : (LogRequest.serveAll first [] : Act σ (List (Option Logger)))
    world
    with ⟨fault | made, between⟩
  · rw [bind_of_error begun, bind_of_error begun]
  have length : made.length = first.length := by
    rw [length_of_serveAll begun]
    simp
  have idle :
      (LogRequest.unbind []).serve made between = (.ok none, between) := by
    rw [serve, bind_of_ok (change_apply _ between), Log.unbind_nil]
    rfl
  obtain ⟨latest, scoping⟩ : ∃ latest,
      (LogRequest.scope parent values).serve made between =
      (.ok latest, between) := by
    rw [serve]
    cases made.getD parent none with
    | none => exact ⟨_, rfl⟩
    | some logger => exact ⟨_, rfl⟩
  rw [bind_of_ok begun, bind_of_ok begun, LogRequest.serveAll,
    LogRequest.serveAll, bind_of_ok scoping, bind_of_ok idle]
  refine serveAll_of_unused unused (by simp) fun maker apart => ?_
  rw [getD_concat, getD_concat, length, if_neg apart, if_neg apart]

end Serving

/-- Where the log can be set up and nothing is bound at first, requests are
served, and they write the records of their log requests, each by a logger that
was made before, and one for each that the log admits. A record carries the
values that its logger was built with, and besides what is bound at the time;
for a scoped logger that is what was bound when it was scoped, which makes no
difference as long as nothing was told of the name since then. Scoping a logger
changes nothing for those who do not use it. -/
theorem records_carry_bound {world : World σ}
    (ready : (setUpLog world).1 = .ok ()) (unbound : world.log.bound = [])
    (requests : List LogRequest) :
    ∃ final after, serveAll requests [] world = (.ok final, after) ∧
      (∃ written : List (List LogRecord), written.length = requests.length ∧
        after.log.records = world.log.records ++ written.flatten ∧
        ∀ time request records, requests[time]? = some request →
          written[time]? = some records →
          (∀ record ∈ records, ∃ maker scopes,
            request = .log maker record.level record.message ∧ maker < time ∧
              Builds requests maker scopes ∧
              ∀ name,
                Json.find? record.context name =
                  carried requests time scopes name) ∧
          ∀ maker level message scopes, request = .log maker level message →
            maker < time →
            Builds requests maker scopes → after.log.admits level = true →
              records.length = 1) ∧
      (∀ maker time scopes name, Builds requests maker scopes → maker < time →
        (∀ scope ∈ scopes.head?, ∀ request ∈ (requests.take time).drop scope.1,
          request.tells? name = none) →
        carried requests time scopes name =
          (given scopes name).or (boundTo (requests.take time) name)) ∧
      ∀ first parent values rest,
        requests = first ++ .scope parent values :: rest →
        (∀ request ∈ rest, ¬ request.Uses first.length) →
        after = (serveAll (first ++ .unbind [] :: rest) [] world).2 := by
  have keeps : Keeps requests 0 [] world.log := keeps_start unbound
  obtain ⟨final, after, served⟩ := keeps.exists_serveAll ready List.drop_zero
  refine ⟨final, after, served, ?_, ?_, ?_⟩
  · obtain ⟨-, written, length, extended, each⟩ := keeps.serveAll rfl served
    refine ⟨written, length, extended,
      fun time request records asked writes => ?_⟩
    have told := each time request records asked writes
    rw [Nat.zero_add] at told
    exact ⟨told.sound, told.complete⟩
  · intro maker time scopes name built used silent
    exact carried_of_silent built used silent
  · rintro first parent values rest rfl unused
    rw [← serveAll_scope_unused unused world, served]

/-- A logger is scoped while a name is bound, and goes on carrying the value
when it is bound no longer. -/
theorem records_carry_bound_stale :
    let world : World Unit := .before () ⟨[], []⟩
    let requests : List LogRequest :=
      [.bind [("run_id", .text "r1")], .get "stepflow",
        .scope 1 [("step_index", .int 3)], .unbind ["run_id"],
        .log 2 .critical "late", .log 1 .critical "now"]
    ∃ final after late now, serveAll requests [] world = (.ok final, after) ∧
      after.log.records = late ++ now ∧ late.length = 1 ∧ now.length = 1 ∧
      (∀ record ∈ late,
        Json.find? record.context "run_id" = some (.text "r1")) ∧
      ∀ record ∈ now, Json.find? record.context "run_id" = none := by
  intro world requests
  have ready : (setUpLog world).1 = .ok () := rfl
  obtain ⟨final, after, served, ⟨written, length, extended, each⟩, -⟩ :=
    records_carry_bound ready rfl requests
  have admits : after.log.admits .critical = true := by
    cases served
    rfl
  have plain : Builds requests 1 [] := .plain rfl
  have nested : Builds requests 2 [(2, [("step_index", .int 3)])] :=
    .scope rfl (by decide) plain
  obtain ⟨a, b, c, d, late, now, rfl⟩ : ∃ a b c d late now,
      written = [a, b, c, d, late, now] := by
    match written, length with
    | [a, b, c, d, late, now], _ => exact ⟨a, b, c, d, late, now, rfl⟩
  -- Only the last two requests are for records.
  have silent (time : Nat) (request : LogRequest) (records : List LogRecord)
      (asked : requests[time]? = some request)
      (writes : [a, b, c, d, late, now][time]? = some records)
      (other : ∀ maker level message, request ≠ .log maker level message) :
        records = [] := by
    refine List.eq_nil_iff_forall_not_mem.mpr fun record among => ?_
    obtain ⟨maker, scopes, same, -⟩ :=
      (each time request records asked writes).1 record among
    exact other _ _ _ same
  obtain rfl := silent 0 _ a rfl rfl nofun
  obtain rfl := silent 1 _ b rfl rfl nofun
  obtain rfl := silent 2 _ c rfl rfl nofun
  obtain rfl := silent 3 _ d rfl rfl nofun
  refine ⟨final, after, late, now, served, ?_, ?_, ?_, ?_, ?_⟩
  · rw [extended]
    simp [world, World.before, Log.start]
  · exact (each 4 _ late rfl rfl).2 2 _ _ _ rfl (by decide) nested admits
  · exact (each 5 _ now rfl rfl).2 1 _ _ _ rfl (by decide) plain admits
  · intro record among
    obtain ⟨maker, scopes, same, -, built, found⟩ :=
      (each 4 _ late rfl rfl).1 record among
    obtain rfl := (LogRequest.log.inj same).1
    rw [found, nested.unique built]
    rfl
  · intro record among
    obtain ⟨maker, scopes, same, -, built, found⟩ :=
      (each 5 _ now rfl rfl).1 record among
    obtain rfl := (LogRequest.log.inj same).1
    rw [found, plain.unique built]
    rfl

/-- A logger that was scoped before a name is bound does not carry the binding,
though it was not given the name itself. -/
theorem scoped_logger_misses_binding :
    let world : World Unit := .before () ⟨[], []⟩
    let requests : List LogRequest :=
      [.get "stepflow", .scope 0 [("step_index", .int 3)],
        .bind [("run_id", .text "r1")], .log 1 .critical "late"]
    ∃ final after record, serveAll requests [] world = (.ok final, after) ∧
      after.log.records = [record] ∧
      Builds requests 1 [(1, [("step_index", .int 3)])] ∧
      given [(1, [("step_index", .int 3)])] "run_id" = none ∧
      boundTo (requests.take 3) "run_id" = some (.text "r1") ∧
      Json.find? record.context "run_id" = none := by
  intro world requests
  exact ⟨_, _, _, rfl, rfl, .scope rfl Nat.zero_lt_one (.plain rfl),
    rfl, rfl, rfl⟩

end LogRequest

end PageFlow
