import BearerAuth.Proofs.LastWrite
import BearerAuth.Transport.Pooled

/-!
# What a transport is built from

A setting gives values to the fields that it covers and leaves the others alone (`get_set`), so
after any number of settings each field has the value of the last one that covers it
(`get_ofSettings`), and settings that cover no field together may change places (`set_comm`). A
configuration is at fault in one way at most (`Config.IsAtFault`), and that is told before anything
that is wrong with the connections (`buildOver_eq_error_iff`). What is built of any other shows the
values of the configuration in all places (`shows_of_buildOver`).
-/

namespace BearerAuth.Transport

open Time

attribute [ext] Config

/-- The fields of a configuration, by what their values are. -/
inductive Field : Type → Type
  | dialTimeout : Field Duration
  | keepAlive : Field Duration
  | idleConnTimeout : Field Duration
  | maxConnsPerHost : Field Nat
  | maxIdleConnsPerHost : Field Nat
  | readIdleTimeout : Field Duration
  | pingTimeout : Field Duration
  | httpTimeout : Field Duration
  | tls : Field TlsPolicy
  | http2 : Field Bool

/-- The value that a setting gives to a field, if it covers it. -/
def Setting.value? {α : Type} : Setting → Field α → Option α
  | dialTimeout d, .dialTimeout => some d
  | keepAlive d, .keepAlive => some d
  | idleConnTimeout d, .idleConnTimeout => some d
  | poolLimits maxConns _, .maxConnsPerHost => some maxConns
  | poolLimits _ maxIdle, .maxIdleConnsPerHost => some maxIdle
  | liveness readIdle _, .readIdleTimeout => some readIdle
  | liveness _ ping, .pingTimeout => some ping
  | httpTimeout d, .httpTimeout => some d
  | tls p, .tls => some p
  | http2 enabled, .http2 => some enabled
  | _, _ => none

/-- No field is covered by both settings. -/
def Setting.Apart (s t : Setting) : Prop :=
  ∀ {α : Type} (f : Field α), s.value? f = none ∨ t.value? f = none

namespace Config

variable {α : Type} {c c' : Config} {s t : Setting} {settings : List Setting}

def get (c : Config) : Field α → α
  | .dialTimeout => c.dialTimeout
  | .keepAlive => c.keepAlive
  | .idleConnTimeout => c.idleConnTimeout
  | .maxConnsPerHost => c.maxConnsPerHost
  | .maxIdleConnsPerHost => c.maxIdleConnsPerHost
  | .readIdleTimeout => c.readIdleTimeout
  | .pingTimeout => c.pingTimeout
  | .httpTimeout => c.httpTimeout
  | .tls => c.tls
  | .http2 => c.http2

/-- The value that the last of the settings that cover a field gives it, or its default. -/
def last (settings : List Setting) (f : Field α) : α :=
  (settings.filterMap (·.value? f)).getLast?.getD (default.get f)

/-- A configuration is what its fields say. -/
theorem ext_get (h : ∀ {α : Type} (f : Field α), c.get f = c'.get f) : c = c' :=
  Config.ext (h .dialTimeout) (h .keepAlive) (h .idleConnTimeout) (h .maxConnsPerHost)
    (h .maxIdleConnsPerHost) (h .readIdleTimeout) (h .pingTimeout) (h .httpTimeout) (h .tls)
    (h .http2)

theorem get_set (c : Config) (s : Setting) (f : Field α) :
    (c.set s).get f = (s.value? f).getD (c.get f) := by
  cases s <;> cases f <;> rfl

theorem get_ofSettings (settings : List Setting) (f : Field α) :
    (ofSettings settings).get f = last settings f :=
  get_foldl (·.get f) (fun c s => get_set c s f) settings default

theorem last_append_cons {before after : List Setting} {f : Field α} {v : α}
    (hs : s.value? f = some v) (hafter : ∀ t ∈ after, t.value? f = none) :
    last (before ++ s :: after) f = v := by
  have hvalues : (s :: after).filterMap (·.value? f) = [v] := by
    simp only [List.filterMap_cons, hs, List.filterMap_eq_nil_iff.2 hafter]
  rw [last, List.filterMap_append, hvalues, List.getLast?_concat, Option.getD_some]

theorem last_of_uncovered {f : Field α} (h : ∀ s ∈ settings, s.value? f = none) :
    last settings f = default.get f := by
  rw [last, List.filterMap_eq_nil_iff.2 h]
  rfl

/-- Where fields have the same last values, the settings come to the same. -/
theorem ofSettings_congr {settings' : List Setting}
    (h : ∀ {α : Type} (f : Field α), last settings f = last settings' f) :
    ofSettings settings = ofSettings settings' := by
  refine ext_get fun f => ?_
  rw [get_ofSettings, get_ofSettings, h]

theorem set_comm (h : s.Apart t) (c : Config) : (c.set s).set t = (c.set t).set s := by
  refine ext_get fun f => ?_
  rw [get_set, get_set, get_set, get_set]
  rcases h f with hs | ht
  · rw [hs, Option.getD_none, Option.getD_none]
  · rw [ht, Option.getD_none, Option.getD_none]

/-- The idle connections to a host are no more than all connections to it may be. -/
def PoolFits (c : Config) : Prop :=
  c.maxConnsPerHost = 0 ∨ c.maxIdleConnsPerHost ≤ c.maxConnsPerHost

/-- HTTP/2 connections can be kept alive, if there may be any. -/
def StaysAlive (c : Config) : Prop :=
  c.http2 = false ∨ c.readIdleTimeout.nanos ≠ 0 ∧ c.pingTimeout.nanos ≠ 0

/-- What is told of a configuration at fault. The pool comes first, and the silence before a probe
comes before the wait for its answer. -/
inductive IsAtFault (c : Config) : TransportError → Prop
  | pool (h : ¬ c.PoolFits) :
    IsAtFault c (.invalidPoolLimits c.maxIdleConnsPerHost c.maxConnsPerHost)
  | silence (hpool : c.PoolFits) (hhttp2 : c.http2 = true) (h : c.readIdleTimeout.nanos = 0) :
    IsAtFault c (.invalidLiveness "read_idle_timeout")
  | answer (hpool : c.PoolFits) (hhttp2 : c.http2 = true) (hsilence : c.readIdleTimeout.nanos ≠ 0)
    (h : c.pingTimeout.nanos = 0) : IsAtFault c (.invalidLiveness "ping_timeout")

theorem fault?_of_not_poolFits (h : ¬ c.PoolFits) :
    c.fault? = some (.invalidPoolLimits c.maxIdleConnsPerHost c.maxConnsPerHost) := by
  rw [PoolFits, not_or, Nat.not_le] at h
  exact if_pos h

theorem fault?_of_poolFits (h : c.PoolFits) : c.fault? =
    if c.http2 = false then none
    else if c.readIdleTimeout.nanos = 0 then some (.invalidLiveness "read_idle_timeout")
    else if c.pingTimeout.nanos = 0 then some (.invalidLiveness "ping_timeout")
    else none := by
  have hpool : ¬ (c.maxConnsPerHost ≠ 0 ∧ c.maxConnsPerHost < c.maxIdleConnsPerHost) := by
    rintro ⟨hzero, hlt⟩
    exact h.elim hzero (Nat.not_le.2 hlt)
  unfold fault?
  rw [if_neg hpool]
  cases c.http2 <;> simp [Duration.isZero]

theorem fault?_eq_some_of_isAtFault {e : TransportError} (h : c.IsAtFault e) :
    c.fault? = some e := by
  cases h with
  | pool hpool => exact fault?_of_not_poolFits hpool
  | silence hpool hhttp2 h => simp [fault?_of_poolFits hpool, hhttp2, h]
  | answer hpool hhttp2 hsilence h => simp [fault?_of_poolFits hpool, hhttp2, hsilence, h]

/-- A configuration is at fault in one way, or its pool fits and its connections stay alive. -/
theorem exists_isAtFault (c : Config) : (∃ e, c.IsAtFault e) ∨ c.PoolFits ∧ c.StaysAlive := by
  by_cases hpool : c.PoolFits
  swap
  · exact .inl ⟨_, .pool hpool⟩
  rcases hhttp2 : c.http2 with _ | _
  · exact .inr ⟨hpool, .inl hhttp2⟩
  by_cases hsilence : c.readIdleTimeout.nanos = 0
  · exact .inl ⟨_, .silence hpool hhttp2 hsilence⟩
  by_cases hanswer : c.pingTimeout.nanos = 0
  · exact .inl ⟨_, .answer hpool hhttp2 hsilence hanswer⟩
  · exact .inr ⟨hpool, .inr ⟨hsilence, hanswer⟩⟩

theorem fault?_eq_none_iff : c.fault? = none ↔ c.PoolFits ∧ c.StaysAlive := by
  constructor
  · intro h
    refine (exists_isAtFault c).resolve_left ?_
    rintro ⟨e, he⟩
    rw [fault?_eq_some_of_isAtFault he] at h
    cases h
  · rintro ⟨hpool, hhttp2 | ⟨hsilence, hanswer⟩⟩
    · rw [fault?_of_poolFits hpool, if_pos hhttp2]
    · rw [fault?_of_poolFits hpool, if_neg hsilence, if_neg hanswer, ite_self]

theorem fault?_eq_some_iff {e : TransportError} : c.fault? = some e ↔ c.IsAtFault e := by
  constructor
  · intro h
    rcases exists_isAtFault c with ⟨e', he'⟩ | hnone
    · rw [fault?_eq_some_of_isAtFault he', Option.some.injEq] at h
      exact h ▸ he'
    · rw [fault?_eq_none_iff.2 hnone] at h
      cases h
  · exact fault?_eq_some_of_isAtFault

end Config

/-- What is built has the values of a configuration in all places where it shows them. -/
structure Built.Shows (built : Built) (c : Config) : Prop where
  http1 : built.http1 = ⟨c.dialTimeout, c.keepAlive, c.idleConnTimeout, c.maxConnsPerHost,
    c.maxIdleConnsPerHost⟩
  http2 : built.http2 = if c.http2 then some ⟨c.readIdleTimeout, c.pingTimeout⟩ else none
  tls : built.tls = c.tls
  config : built.transport.config = c
  httpTimeout : ∀ {σ : Type} (network : Http.Request → σ → Exchange × σ),
    (built.transport.toTransport network).httpTimeout = c.httpTimeout
  limits : built.transport.limits = .new c.maxConnsPerHost

/-- Connections are made by the values of a configuration. -/
structure Connections.Follow (q : Connections) (c : Config) : Prop where
  connectTimeout : q.connectTimeout = c.dialTimeout
  keepAlive : q.keepAlive = c.keepAlive
  idleTimeout : q.idleTimeout = c.idleConnTimeout
  maxIdlePerHost : q.maxIdlePerHost = c.maxIdleConnsPerHost
  tls : q.tls = c.tls
  timeout : q.timeout = if c.httpTimeout.isZero then none else some c.httpTimeout
  http2 : q.http2 = if c.http2 then some ⟨c.readIdleTimeout, c.pingTimeout⟩ else none

theorem Config.follow_connections (c : Config) : c.connections.Follow c :=
  ⟨rfl, rfl, rfl, rfl, rfl, rfl, rfl⟩

namespace Builder

variable {refuse? : Connections → Option Cause} {b : Builder} {c : Config} {number : Nat}

theorem buildOver_of_fault {e : TransportError} (h : c.fault? = some e) :
    b.buildOver refuse? c number = .error e := by
  simp only [buildOver, h]

theorem buildOver_of_refused {cause : Cause} (h : c.fault? = none)
    (hrefuse : refuse? c.connections = some cause) :
    b.buildOver refuse? c number = .error (.clientBuild cause) := by
  simp only [buildOver, h, hrefuse]

theorem exists_buildOver (h : c.fault? = none) (hrefuse : refuse? c.connections = none)
    (b : Builder) (number : Nat) :
    ∃ built, b.buildOver refuse? c number = .ok built ∧ built.Shows c := by
  simp only [buildOver, h, hrefuse]
  exact ⟨_, rfl, rfl, rfl, rfl, rfl, fun _ => rfl, rfl⟩

theorem buildOver_eq_ok_iff : (∃ built, b.buildOver refuse? c number = .ok built) ↔
    c.PoolFits ∧ c.StaysAlive ∧ refuse? c.connections = none := by
  rw [← and_assoc, ← Config.fault?_eq_none_iff]
  rcases hfault : c.fault? with _ | e
  · rcases hrefuse : refuse? c.connections with _ | cause
    · obtain ⟨built, hbuilt, -⟩ := exists_buildOver hfault hrefuse b number
      simp [hbuilt]
    · simp [buildOver_of_refused hfault hrefuse]
  · simp [buildOver_of_fault hfault]

theorem shows_of_buildOver {built : Built} (h : b.buildOver refuse? c number = .ok built) :
    built.Shows c := by
  obtain ⟨hpool, hlive, hrefuse⟩ := buildOver_eq_ok_iff.1 ⟨built, h⟩
  obtain ⟨built', hbuilt', hshows⟩ :=
    exists_buildOver (Config.fault?_eq_none_iff.2 ⟨hpool, hlive⟩) hrefuse b number
  rw [h, Except.ok.injEq] at hbuilt'
  exact hbuilt' ▸ hshows

/-- A fault of the configuration is told whether connections can be made or not. -/
theorem buildOver_eq_error_iff {e : TransportError} : b.buildOver refuse? c number = .error e ↔
    c.IsAtFault e ∨ c.PoolFits ∧ c.StaysAlive
      ∧ ∃ cause, refuse? c.connections = some cause ∧ e = .clientBuild cause := by
  rw [← Config.fault?_eq_some_iff, ← and_assoc, ← Config.fault?_eq_none_iff]
  rcases hfault : c.fault? with _ | e'
  · rcases hrefuse : refuse? c.connections with _ | cause
    · obtain ⟨built, hbuilt, -⟩ := exists_buildOver hfault hrefuse b number
      simp [hbuilt]
    · simp [buildOver_of_refused hfault hrefuse, eq_comm]
  · simp [buildOver_of_fault hfault]

end Builder

namespace Config

/-- Whatever settings are made, each field has the value of the last one that covers it, or else its
default, so settings that cover no field together may change places, and settings with the same last
values come to the same. Connections are made by these values, and if they can be, a transport comes
of the settings exactly if the pool fits and HTTP/2 connections stay alive. A fault of the settings
is told before one of the connections, the caps of the pool before the rest, and the silence before
a probe before the wait for its answer. A transport that is built shows the last values in all
places. -/
theorem transport_built_from_last_settings (settings : List Setting) :
    (∀ {α : Type} (f : Field α),
      (ofSettings settings).get f = last settings f
      ∧ (∀ before s after v, settings = before ++ s :: after → s.value? f = some v →
        (∀ t ∈ after, t.value? f = none) → last settings f = v)
      ∧ ((∀ s ∈ settings, s.value? f = none) → last settings f = default.get f))
    ∧ (∀ s t : Setting, s.Apart t → ∀ c : Config, (c.set s).set t = (c.set t).set s)
    ∧ (∀ others : List Setting, (∀ {α : Type} (f : Field α), last settings f = last others f) →
      ofSettings settings = ofSettings others)
    ∧ (ofSettings settings).connections.Follow (ofSettings settings)
    ∧ (∀ (refuse? : Connections → Option Cause) (b : Builder) (number : Nat),
      ((∃ built, b.buildOver refuse? (ofSettings settings) number = .ok built) ↔
        (ofSettings settings).PoolFits ∧ (ofSettings settings).StaysAlive
          ∧ refuse? (ofSettings settings).connections = none)
      ∧ (∀ e, b.buildOver refuse? (ofSettings settings) number = .error e ↔
        (ofSettings settings).IsAtFault e
          ∨ (ofSettings settings).PoolFits ∧ (ofSettings settings).StaysAlive
            ∧ ∃ cause, refuse? (ofSettings settings).connections = some cause
              ∧ e = .clientBuild cause)
      ∧ ∀ built, b.buildOver refuse? (ofSettings settings) number = .ok built →
        built.Shows (ofSettings settings))
    ∧ ∀ (b : Builder) (number : Nat), b.build (ofSettings settings) number
      = b.buildOver Connections.fault? (ofSettings settings) number := by
  refine ⟨fun f => ⟨get_ofSettings settings f, ?_, last_of_uncovered⟩, fun _ _ h c => set_comm h c,
    fun _ h => ofSettings_congr h, follow_connections _, fun refuse? b number =>
    ⟨Builder.buildOver_eq_ok_iff, fun e => Builder.buildOver_eq_error_iff,
      fun built => Builder.shows_of_buildOver⟩, fun _ _ => rfl⟩
  rintro before s after v rfl hs hafter
  exact last_append_cons hs hafter

/-- Settings of which each is made twice, with faults in the first place. -/
def revisedSettings : List Setting :=
  [.poolLimits 4 8, .liveness .zero .zero, .http2 false, .http2 true,
    .liveness (.ofSeconds 7) (.ofSeconds 9), .poolLimits 8 4]

/-- What was set first does not count, the two values of a setting are not mistaken for each other,
and two settings of their own fields change places. -/
theorem transport_built_of_revised :
    ∃ built, (Builder.mk .silent).build (ofSettings revisedSettings) 0 = .ok built
      ∧ built.http1.maxConnsPerHost = 8 ∧ built.http1.maxIdleConnsPerHost = 4
      ∧ built.http2 = some ⟨.ofSeconds 7, .ofSeconds 9⟩
      ∧ built.transport.config.http2 = true
      ∧ (built.transport.config.set (.poolLimits 1 2)).set (.http2 false)
        = (built.transport.config.set (.http2 false)).set (.poolLimits 1 2) := by
  obtain ⟨hlast, hcomm, -, -, hbuild, -⟩ := transport_built_from_last_settings revisedSettings
  obtain ⟨hok, -, hshows⟩ := hbuild Connections.fault? ⟨.silent⟩ 0
  obtain ⟨built, hbuilt⟩ := hok.2 ⟨.inr (by decide), .inr ⟨by decide, by decide⟩, rfl⟩
  have h := hshows built hbuilt
  have hhttp2 : (ofSettings revisedSettings).http2 = true := by
    refine (hlast .http2).1.trans ((hlast .http2).2.1
      [.poolLimits 4 8, .liveness .zero .zero, .http2 false] (.http2 true)
      [.liveness (.ofSeconds 7) (.ofSeconds 9), .poolLimits 8 4] true rfl rfl ?_)
    simp [Setting.value?]
  have hapart : (Setting.poolLimits 1 2).Apart (.http2 false) := fun f => by
    cases f <;> simp [Setting.value?]
  refine ⟨built, hbuilt, ?_, ?_, h.http2, h.config ▸ hhttp2, hcomm _ _ hapart _⟩
  · rw [h.http1]
    rfl
  · rw [h.http1]
    rfl

end Config

end BearerAuth.Transport
