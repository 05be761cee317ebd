-- SUMMARY: Validation asks for a fixed list of things in a fixed order, and reports the first that the settings do not give.
import Flowmeter.Proofs.Agent.Settings

/-!
# Validation

What is asked of the settings can be written down as a list: each demand with
the cause that is reported if it is the first one not met. The readings of the
settings and the checks behind them follow one another, so their lists do, and
the list of validation is put together from theirs. Some demands depend on what
another setting says; they are met where that setting says something else.
-/

namespace Flowmeter

/-! ## Demands -/

/-- Something asked of the settings, and what is reported if they do not give it. -/
structure Demand where
  met : Prop
  cause : ConfigError

/-- `cause` is that of the first demand that is not met. -/
inductive FirstUnmet : List Demand → ConfigError → Prop where
  | here {d : Demand} {ds : List Demand} : ¬ d.met → FirstUnmet (d :: ds) d.cause
  | later {d : Demand} {ds : List Demand} {cause : ConfigError} :
      d.met → FirstUnmet ds cause → FirstUnmet (d :: ds) cause

namespace FirstUnmet

variable {ds es : List Demand} {cause cause' : ConfigError}

theorem not_all_met (h : FirstUnmet ds cause) : ¬ ∀ d ∈ ds, d.met := by
  intro hall
  induction h with
  | here hnot => exact hnot (hall _ List.mem_cons_self)
  | later _ _ ih => exact ih fun d hd => hall d (List.mem_cons_of_mem _ hd)

theorem unique (h : FirstUnmet ds cause) (h' : FirstUnmet ds cause') : cause = cause' := by
  induction h with
  | here hnot =>
    cases h' with
    | here _ => rfl
    | later hmet _ => exact absurd hmet hnot
  | later hmet _ ih =>
    cases h' with
    | here hnot => exact absurd hmet hnot
    | later _ h' => exact ih h'

theorem append_right (h : FirstUnmet ds cause) (es : List Demand) : FirstUnmet (ds ++ es) cause := by
  induction h with
  | here hnot => exact .here hnot
  | later hmet _ ih => exact .later hmet ih

theorem append_left (hall : ∀ d ∈ ds, d.met) (h : FirstUnmet es cause) :
    FirstUnmet (ds ++ es) cause := by
  induction ds with
  | nil => exact h
  | cons d ds ih =>
    obtain ⟨hd, hall⟩ := List.forall_mem_cons.1 hall
    exact .later hd (ih hall)

end FirstUnmet

/-- The computation has a result only if all demands are met, and fails with the cause of the
first that is not. -/
structure Enforces {α : Type} (x : Except ConfigError α) (ds : List Demand) : Prop where
  met : ∀ a, x = .ok a → ∀ d ∈ ds, d.met
  unmet : ∀ cause, x = .error cause → FirstUnmet ds cause

namespace Enforces

variable {α β : Type} {x : Except ConfigError α} {ds es : List Demand}

theorem ok_iff (h : Enforces x ds) : (∃ a, x = .ok a) ↔ ∀ d ∈ ds, d.met := by
  constructor
  · rintro ⟨a, hx⟩
    exact h.met a hx
  · intro hall
    cases hx : x with
    | ok a => exact ⟨a, rfl⟩
    | error cause => exact absurd hall (h.unmet cause hx).not_all_met

theorem error_iff (h : Enforces x ds) {cause : ConfigError} :
    x = .error cause ↔ FirstUnmet ds cause := by
  constructor
  · exact h.unmet cause
  · intro hfirst
    cases hx : x with
    | ok a => exact absurd (h.met a hx) hfirst.not_all_met
    | error cause' => rw [hfirst.unique (h.unmet cause' hx)]

theorem ok (a : α) : Enforces (.ok a) [] where
  met _ _ _ hd := nomatch hd
  unmet _ h := nomatch h

/-- What comes first is asked for first. -/
theorem bind {f : α → Except ConfigError β} (h : Enforces x ds)
    (hf : ∀ a, x = .ok a → Enforces (f a) es) : Enforces (x >>= f) (ds ++ es) := by
  cases hx : x with
  | error cause =>
    refine ⟨nofun, fun cause' heq => ?_⟩
    rw [← Except.error.inj heq]
    exact (h.unmet cause hx).append_right es
  | ok a =>
    have hmet := h.met a hx
    have hnext := hf a hx
    refine ⟨fun b hb d hd => ?_, fun cause heq => (hnext.unmet cause heq).append_left hmet⟩
    exact (List.mem_append.1 hd).elim (hmet d) (hnext.met b hb d)

/-- A demand that is met anyway. -/
theorem cons_of_met {d : Demand} (hmet : d.met) (h : Enforces x ds) : Enforces x (d :: ds) where
  met a ha := List.forall_mem_cons.2 ⟨hmet, h.met a ha⟩
  unmet cause hx := .later hmet (h.unmet cause hx)

/-- A check in front of a computation. -/
theorem check {bad : Prop} [Decidable bad] {cause : ConfigError} (h : Enforces x ds) :
    Enforces (if bad then .error cause else x) (⟨¬ bad, cause⟩ :: ds) := by
  split
  · next hbad => exact ⟨nofun, fun _ heq => Except.error.inj heq ▸ .here (not_not_intro hbad)⟩
  · next hgood =>
    exact ⟨fun a ha => List.forall_mem_cons.2 ⟨hgood, h.met a ha⟩,
      fun cause heq => .later hgood (h.unmet cause heq)⟩

/-- A text that has to be read in front of a computation. -/
theorem read {γ : Type} {o : Option γ} {p : Prop} {cause : ConfigError} (hread : o.isSome ↔ p)
    (hnone : o = none → x = .error cause) (hsome : ∀ c, o = some c → Enforces x ds) :
    Enforces x (⟨p, cause⟩ :: ds) := by
  cases o with
  | none =>
    have hunmet : ¬ p := fun hp => nomatch hread.2 hp
    rw [hnone rfl]
    exact ⟨nofun, fun _ heq => Except.error.inj heq ▸ .here hunmet⟩
  | some c => exact .cons_of_met (hread.1 rfl) (hsome c rfl)

end Enforces

/-! ## Readings -/

theorem Iface.isSome_ofText?_iff (s : String) :
    (ofText? s).isSome ↔ s = "external" ∨ s = "local" ∨ ∃ name, name ≠ "" ∧ s = "name:" ++ name := by
  constructor
  · intro h
    unfold ofText? at h
    split at h
    · next hs => exact .inl (String.toList_inj.1 hs)
    · next hs => exact .inr (.inl (String.toList_inj.1 hs))
    · next c cs hs =>
      refine .inr (.inr ⟨String.ofList (c :: cs), by simp, String.toList_inj.1 ?_⟩)
      simp [hs]
    · cases h
  · rintro (rfl | rfl | ⟨name, hname, rfl⟩)
    · rfl
    · rfl
    · obtain ⟨c, cs, hchars⟩ := List.exists_cons_of_ne_nil (mt String.toList_eq_nil_iff.1 hname)
      simp [ofText?, hchars]

theorem Family.isSome_ofText?_iff (s : String) :
    (ofText? s).isSome ↔ s = "any" ∨ s = "ipv4" ∨ s = "ipv6" := by
  unfold ofText?
  split <;> simp_all

theorem Dedup.Kind.isSome_ofText?_iff (s : String) :
    (ofText? s).isSome ↔ s = "none" ∨ s = "first-come" := by
  unfold ofText?
  split <;> simp_all

namespace Config

variable (config : Config)

/-- Flows go to a host and a port. -/
def UsesEndpoint : Prop := config.exportKind = "grpc" ∨ config.exportKind = "tcp"

/-- What the export asks for. -/
def targetDemands : List Demand :=
  [⟨config.UsesEndpoint ∨ config.exportKind = "kafka", .exportKind config.exportKind⟩,
    ⟨config.UsesEndpoint → config.targetHost ≠ "", .missing .targetHost⟩,
    ⟨config.UsesEndpoint → config.targetPort ≠ 0, .missing .targetPort⟩,
    ⟨config.exportKind = "kafka" → ∃ broker ∈ config.kafkaBrokers, broker ≠ "",
      .missing .kafkaBrokers⟩,
    ⟨config.exportKind = "kafka" → config.kafkaTopic ≠ "", .missing .kafkaTopic⟩]

/-- What the deduplication asks for. -/
def dedupDemands : List Demand :=
  [⟨config.deduper = "none" ∨ config.deduper = "first-come", .deduperKind config.deduper⟩]

/-- What the source of the agent's address asks for. -/
def sourceDemands : List Demand :=
  [⟨config.agentIpIface = "external" ∨ config.agentIpIface = "local" ∨
      ∃ name, name ≠ "" ∧ config.agentIpIface = "name:" ++ name,
      .invalid (.agentIpIface config.agentIpIface)⟩,
    ⟨config.agentIpType = "any" ∨ config.agentIpType = "ipv4" ∨ config.agentIpType = "ipv6",
      .invalid (.agentIpType config.agentIpType)⟩]

/-- What the sizes have to be. -/
def sizeDemands : List Demand :=
  [⟨config.cacheMaxFlows ≠ 0, .invalid .cacheMaxFlows⟩,
    ⟨config.cacheActiveTimeout ≠ .zero, .invalid .cacheActiveTimeout⟩,
    ⟨config.bufferLength ≠ 0, .invalid .bufferLength⟩]

/-- All that is asked of settings, in the order in which it is asked. -/
def demands : List Demand :=
  config.targetDemands ++ (config.dedupDemands ++ (config.sourceDemands ++ config.sizeDemands))

variable {config}

theorem endpoint_enforces : Enforces config.endpoint
    [⟨config.targetHost ≠ "", .missing .targetHost⟩, ⟨config.targetPort ≠ 0, .missing .targetPort⟩] :=
  .check (.check (.ok _))

/-- An export that goes to an endpoint. -/
theorem endpoint_target_enforces (hkind : config.UsesEndpoint) (make : String × UInt16 → Target) :
    Enforces (config.endpoint >>= fun endpoint => .ok (make endpoint)) config.targetDemands := by
  have hkafka : config.exportKind ≠ "kafka" := by
    rcases hkind with hkind | hkind <;> simp [hkind]
  have hdemands : config.targetDemands = ⟨True, .exportKind config.exportKind⟩
      :: ([⟨config.targetHost ≠ "", .missing .targetHost⟩,
          ⟨config.targetPort ≠ 0, .missing .targetPort⟩]
        ++ [⟨True, .missing .kafkaBrokers⟩, ⟨True, .missing .kafkaTopic⟩]) := by
    simp [targetDemands, hkind, hkafka]
  rw [hdemands]
  exact .cons_of_met trivial
    (endpoint_enforces.bind fun _ _ => .cons_of_met trivial (.cons_of_met trivial (.ok _)))

theorem target_enforces : Enforces config.target config.targetDemands := by
  unfold target
  split
  · next hkind => exact endpoint_target_enforces (.inl hkind) fun e => .grpc e.1 e.2
  · next hkind => exact endpoint_target_enforces (.inr hkind) fun e => .tcp e.1 e.2
  · next hkind =>
    have hdemands : config.targetDemands = [⟨True, .exportKind config.exportKind⟩,
        ⟨True, .missing .targetHost⟩, ⟨True, .missing .targetPort⟩,
        ⟨¬ config.kafkaBrokers.filter (· ≠ "") = [], .missing .kafkaBrokers⟩,
        ⟨¬ config.kafkaTopic = "", .missing .kafkaTopic⟩] := by
      simp [targetDemands, UsesEndpoint, hkind, List.filter_eq_nil_iff]
    rw [hdemands]
    exact .cons_of_met trivial (.cons_of_met trivial (.cons_of_met trivial (.check (.check (.ok _)))))
  · next hgrpc htcp hkafka =>
    have hunmet : ¬ (config.UsesEndpoint ∨ config.exportKind = "kafka") := by
      rintro ((hkind | hkind) | hkind)
      · exact hgrpc hkind
      · exact htcp hkind
      · exact hkafka hkind
    exact ⟨nofun, fun _ heq => Except.error.inj heq ▸ .here hunmet⟩

/-- Once the deduplication can be read, only its text can have been wrong. -/
theorem dedup_enforces {dedup : Except ConfigError (Dedup.Kind × Dedup.Mode × Duration)}
    (hdedup : config.dedup = .ok dedup) : Enforces dedup config.dedupDemands := by
  refine .read (Dedup.Kind.isSome_ofText?_iff _) (fun hnone => ?_) fun kind hkind => ?_
  · rw [Config.dedup, hnone] at hdedup
    exact (Except.ok.inj hdedup).symm
  · rw [Config.dedup, hkind] at hdedup
    obtain ⟨twice, -, h⟩ := bind_eq_ok.1 hdedup
    obtain rfl := Except.ok.inj h
    exact .ok _

theorem agentIpSource_enforces : Enforces config.agentIpSource config.sourceDemands := by
  refine .read (Iface.isSome_ofText?_iff _) (fun hnone => ?_) fun iface hiface => ?_
  · rw [agentIpSource, hnone]
  refine .read (Family.isSome_ofText?_iff _) (fun hnone => ?_) fun family hfamily => ?_
  · rw [agentIpSource, hiface, hnone]
  · rw [agentIpSource, hiface, hfamily]
    exact .ok _

theorem checkSizes_enforces : Enforces config.checkSizes config.sizeDemands :=
  .check (.check (.check (.ok _)))

/-- The active timeout can be doubled, so validation is not broken off. -/
theorem validate_enforces
    (hfits : 2 * config.cacheActiveTimeout.nanos < UInt64.size * nanosPerSecond) :
    ∃ valid, config.validate = .ok valid ∧ Enforces valid config.demands := by
  cases hdedup : config.dedup with
  | error cause => exact absurd (dedup_eq_error_iff.1 hdedup).2.2 (Nat.not_le.2 hfits)
  | ok dedup =>
    refine ⟨_, validate_of_dedup hdedup, ?_⟩
    exact target_enforces.bind fun _ _ => (dedup_enforces hdedup).bind fun _ _ =>
      agentIpSource_enforces.bind fun _ _ => checkSizes_enforces

/-- The demands of the export taken together: no export is of two kinds. -/
theorem targetDemands_met_iff : (∀ d ∈ config.targetDemands, d.met) ↔
    config.UsesEndpoint ∧ config.targetHost ≠ "" ∧ config.targetPort ≠ 0 ∨
      config.exportKind = "kafka" ∧ (∃ broker ∈ config.kafkaBrokers, broker ≠ "") ∧
        config.kafkaTopic ≠ "" := by
  simp only [targetDemands, List.forall_mem_cons]
  by_cases hkafka : config.exportKind = "kafka"
  · have hnot : ¬ config.UsesEndpoint := by simp [UsesEndpoint, hkafka]
    simp [hnot, hkafka]
  · simp only [hkafka, or_false, false_and]
    grind

theorem demands_met_iff : (∀ d ∈ config.demands, d.met) ↔
    (∀ d ∈ config.targetDemands, d.met) ∧ (∀ d ∈ config.dedupDemands, d.met) ∧
      (∀ d ∈ config.sourceDemands, d.met) ∧ ∀ d ∈ config.sizeDemands, d.met := by
  simp only [demands, List.forall_mem_append]

/-- Where an address is looked for, there may be none, and nothing else goes wrong. -/
theorem resolveAgentIp_eq_error {iface : Iface} {family : Family}
    (hsource : config.agentIpSource = .ok (iface, family)) {links : List Link} {cause : ConfigError}
    (h : config.resolveAgentIp links = .error cause) :
    config.agentIp = none ∧ cause = .address family iface := by
  unfold resolveAgentIp at h
  cases hip : config.agentIp with
  | some ip =>
    rw [hip] at h
    cases h
  | none =>
    rw [hip, hsource] at h
    change Link.select links iface family = .error cause at h
    unfold Link.select at h
    split at h
    · cases h
    · exact ⟨rfl, (Except.error.inj h).symm⟩

end Config

theorem Agent.create_of_validate {config : Config} (hvalid : config.validate = .ok (.ok ()))
    (links : List Link) :
    create config links = .ok ((config.resolveAgentIp links).map fun ip => ⟨config, ip⟩) := by
  rw [create, hvalid]
  cases config.resolveAgentIp links <;> rfl

namespace Config

variable {config : Config}

/-- Validation of settings whose active timeout can be doubled. It is not broken off, and it
passes just if the export is to a host and a port or to brokers and a topic, all of them there, the deduplication, the
interface and the family of the agent's address are ones that exist, and no size is zero.
Otherwise it reports the first of these that fails. What passes can be read by those who come
later: the deduper can be set up, and there is an agent unless its address has to be found on
the host's links and is not there. -/
theorem validate_reports_first_unmet
    (hfits : 2 * config.cacheActiveTimeout.nanos < UInt64.size * nanosPerSecond) :
    (∃ valid, config.validate = .ok valid) ∧
    (config.validate = .ok (.ok ()) ↔
      ((config.exportKind = "grpc" ∨ config.exportKind = "tcp") ∧
          config.targetHost ≠ "" ∧ config.targetPort ≠ 0 ∨
        config.exportKind = "kafka" ∧ (∃ broker ∈ config.kafkaBrokers, broker ≠ "") ∧
          config.kafkaTopic ≠ "") ∧
      (config.deduper = "none" ∨ config.deduper = "first-come") ∧
      (config.agentIpIface = "external" ∨ config.agentIpIface = "local" ∨
        ∃ name, name ≠ "" ∧ config.agentIpIface = "name:" ++ name) ∧
      (config.agentIpType = "any" ∨ config.agentIpType = "ipv4" ∨ config.agentIpType = "ipv6") ∧
      config.cacheMaxFlows ≠ 0 ∧ config.cacheActiveTimeout ≠ .zero ∧ config.bufferLength ≠ 0) ∧
    (∀ cause, config.validate = .ok (.error cause) ↔ FirstUnmet config.demands cause) ∧
    (config.validate = .ok (.ok ()) →
      (∃ target, config.target = .ok target) ∧
      (∃ dedup, config.dedup = .ok (.ok dedup)) ∧
      (∀ (a : Agent) clock names failsAt, a.config = config →
        ∃ setup, a.setup clock names failsAt = .ok (.ok setup)) ∧
      ∃ iface family, config.agentIpSource = .ok (iface, family) ∧
        ∀ links, ∃ created, Agent.create config links = .ok created ∧
          ∀ cause, created = .error cause →
            config.agentIp = none ∧ cause = .address family iface) := by
  obtain ⟨valid, hvalidate, henforces⟩ := validate_enforces hfits
  refine ⟨⟨valid, hvalidate⟩, ?_, fun cause => ?_, fun hvalid => ?_⟩
  · have hok : (∃ u, valid = .ok u) ↔ valid = .ok () := ⟨fun ⟨_, h⟩ => h, fun h => ⟨(), h⟩⟩
    rw [hvalidate, Except.ok.injEq, ← hok, henforces.ok_iff, demands_met_iff,
      targetDemands_met_iff]
    simp [dedupDemands, sourceDemands, sizeDemands, and_assoc, UsesEndpoint]
  · rw [hvalidate, Except.ok.injEq, henforces.error_iff]
  · obtain ⟨htarget, ⟨dedup, hdedup⟩, ⟨⟨iface, family⟩, hsource⟩, -⟩ := validate_eq_ok_iff.1 hvalid
    refine ⟨htarget, ⟨dedup, hdedup⟩, ?_, iface, family, hsource, fun links => ?_⟩
    · rintro a clock names failsAt rfl
      exact ⟨_, Agent.setup_eq_ok_iff.2 ⟨_, _, _, hdedup, rfl⟩⟩
    · refine ⟨_, Agent.create_of_validate hvalid links, fun cause h => ?_⟩
      cases hip : config.resolveAgentIp links with
      | ok ip =>
        rw [hip] at h
        cases h
      | error cause' =>
        rw [hip] at h
        obtain rfl := Except.error.inj h
        exact resolveAgentIp_eq_error hsource hip

/-- Settings that are accepted. -/
def collecting : Config :=
  { Config.default with exportKind := "tcp", targetHost := "collector", targetPort := 9999 }

/-- From the interface of the address on, everything is wrong. -/
def misdirected : Config :=
  { collecting with agentIpIface := "name:", agentIpType := "ipv5", cacheMaxFlows := 0 }

/-- No broker has a name, no topic is given, and no deduplication is known. -/
def unnamed : Config :=
  { collecting with
    exportKind := "kafka", kafkaBrokers := ["", ""], kafkaTopic := "", deduper := "last-come" }

/-- Of all that is wrong, what is asked for first is reported. -/
theorem validate_reports_first_unmet_wrongs :
    2 * collecting.cacheActiveTimeout.nanos < UInt64.size * nanosPerSecond ∧
    collecting.validate = .ok (.ok ()) ∧
    misdirected.validate = .ok (.error (.invalid (.agentIpIface "name:"))) ∧
    unnamed.validate = .ok (.error (.missing .kafkaBrokers)) ∧
    (∃ setup, Agent.setup ⟨collecting, .unspecified⟩ ⟨0⟩ [] none = .ok (.ok setup)) ∧
    ∀ links, ∃ created, Agent.create collecting links = .ok created ∧
      ∀ cause, created = .error cause → cause = .address .any .external := by
  have hfits : 2 * collecting.cacheActiveTimeout.nanos < UInt64.size * nanosPerSecond := by decide
  obtain ⟨-, hok, -, hlater⟩ := validate_reports_first_unmet hfits
  have hvalid : collecting.validate = .ok (.ok ()) := by
    refine hok.2 ⟨.inl ⟨.inr rfl, by decide, by decide⟩, .inl rfl, .inl rfl, .inl rfl, ?_⟩
    exact ⟨by decide, by decide, by decide⟩
  obtain ⟨-, -, hsetup, iface, family, hsource, hcreate⟩ := hlater hvalid
  obtain ⟨rfl, rfl⟩ := Prod.mk.inj (Except.ok.inj hsource)
  refine ⟨hfits, hvalid, ?_, ?_, hsetup _ _ _ _ rfl, fun links => ?_⟩
  · have hfits : 2 * misdirected.cacheActiveTimeout.nanos < UInt64.size * nanosPerSecond := hfits
    refine ((validate_reports_first_unmet hfits).2.2.1 _).2 ?_
    have hnone : ¬ (Iface.ofText? "name:").isSome := by decide
    refine .later (.inl (.inr rfl)) (.later (fun _ => by decide) (.later (fun _ => by decide) ?_))
    refine .later (fun h => absurd h (by decide)) (.later (fun h => absurd h (by decide)) ?_)
    exact .later (.inl rfl) (.here (mt (Iface.isSome_ofText?_iff _).2 hnone))
  · have hfits : 2 * unnamed.cacheActiveTimeout.nanos < UInt64.size * nanosPerSecond := hfits
    refine ((validate_reports_first_unmet hfits).2.2.1 _).2 ?_
    have hother : ¬ unnamed.UsesEndpoint := by unfold UsesEndpoint; decide
    refine .later (.inr rfl) (.later (absurd · hother) (.later (absurd · hother) ?_))
    exact .here fun h => absurd (h rfl) (by decide)
  · obtain ⟨created, hcreated, hcause⟩ := hcreate links
    exact ⟨created, hcreated, fun cause h => (hcause cause h).2⟩

end Config

end Flowmeter
