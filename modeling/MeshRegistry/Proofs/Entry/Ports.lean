import Mathlib.Data.List.Sort
import MeshRegistry.Catalog.Instance
/-!
# The ports of a built entry

The ports of an entry have the numbers that its endpoints use, each number once and in ascending
order. A port is named after its number, so the ports of an entry depend on nothing but the set of
these numbers. Each port of an endpoint that stands for an instance of a catalog is named after its
number as well. So every port of such an endpoint is a port of the entry under the same name.

Not every name says which number is meant: all numbers without a protocol of their own share one.
The names tell the ports of an entry apart as long as the instances use at most one such number.

## Main definitions

- `UsesNumber`: the numbers that endpoints use.
- `wellKnownPorts`: the numbers that have a protocol of their own.
- `ServiceInstance.Serves`: the numbers that an instance is reached at.
- `ServiceInstance.HasPlainPort`: an instance reports a number without a protocol of its own.

## Main results

- `portNumbers_ascending`, `mem_portNumbers_iff`: the numbers of an entry.
- `service_ports_canonical`: the ports of an entry, and what they depend on.
- `nodup_map_protocolOf_iff`: when names tell numbers apart.
- `EntryBuilder.port_names_distinct_iff`: when they tell the ports of a built entry apart, and how
  the ports of its endpoints are found among them.
-/

namespace MeshRegistry

/-! ## Numbers in ascending order -/

theorem mem_insertNumber_iff {n m : UInt32} {numbers : List UInt32} :
    m ∈ insertNumber n numbers ↔ m = n ∨ m ∈ numbers := by
  induction numbers with
  | nil => simp [insertNumber]
  | cons first rest ih =>
    rw [insertNumber]
    split
    · simp
    · split
      next heq => simp [heq]
      next => simp [ih, or_left_comm]

theorem insertNumber_ascending (n : UInt32) {numbers : List UInt32}
    (h : numbers.Pairwise (· < ·)) : (insertNumber n numbers).Pairwise (· < ·) := by
  induction numbers with
  | nil => simp [insertNumber]
  | cons first rest ih =>
    obtain ⟨hfirst, hrest⟩ := List.pairwise_cons.mp h
    rw [insertNumber]
    split
    next hlt =>
      -- What is above the first number is above the new one as well.
      apply List.pairwise_cons.mpr ⟨?_, h⟩
      intro m hm
      rcases List.mem_cons.mp hm with rfl | hm
      · exact hlt
      · exact UInt32.lt_trans hlt (hfirst m hm)
    next hge =>
      split
      next => exact h
      next hne =>
        have hgt : first < n := by
          rcases UInt32.lt_or_lt_of_ne hne with hlt | hgt
          · exact absurd hlt hge
          · exact hgt
        apply List.pairwise_cons.mpr ⟨?_, ih hrest⟩
        intro m hm
        rcases mem_insertNumber_iff.mp hm with rfl | hm
        · exact hgt
        · exact hfirst m hm

theorem portNumbers_ascending (endpoints : List Endpoint) :
    (portNumbers endpoints).Pairwise (· < ·) := by
  have hkept (numbers acc : List UInt32) (hacc : acc.Pairwise (· < ·)) :
      (numbers.foldl (fun acc n => insertNumber n acc) acc).Pairwise (· < ·) := by
    induction numbers generalizing acc with
    | nil => exact hacc
    | cons n rest ih => exact ih _ (insertNumber_ascending n hacc)
  exact hkept _ [] .nil

theorem nodup_portNumbers (endpoints : List Endpoint) : (portNumbers endpoints).Nodup :=
  (portNumbers_ascending endpoints).imp fun hlt => UInt32.ne_of_lt hlt

theorem mem_portNumbers_iff {endpoints : List Endpoint} {n : UInt32} :
    n ∈ portNumbers endpoints ↔ ∃ e ∈ endpoints, ∃ name, (name, n) ∈ e.ports.entries := by
  have hcollected (numbers acc : List UInt32) :
      n ∈ numbers.foldl (fun acc n => insertNumber n acc) acc ↔ n ∈ numbers ∨ n ∈ acc := by
    induction numbers generalizing acc with
    | nil => simp
    | cons m rest ih => simp [ih, mem_insertNumber_iff, or_left_comm, or_assoc]
  rw [portNumbers, hcollected]
  simp [SortedMap.values]

/-! ## The ports of an entry -/

/-- Endpoints use a number: one of them has a port of that number, under whatever name. -/
def UsesNumber (endpoints : List Endpoint) (n : UInt32) : Prop :=
  ∃ e ∈ endpoints, ∃ name, e.ports.get? name = some n

theorem mem_portNumbers_iff_usesNumber {endpoints : List Endpoint} {n : UInt32} :
    n ∈ portNumbers endpoints ↔ UsesNumber endpoints n := by
  simp only [mem_portNumbers_iff, UsesNumber, SortedMap.get?_eq_some_iff]

theorem map_number_servicePorts (endpoints : List Endpoint) :
    (servicePorts endpoints).map (·.number) = portNumbers endpoints := by
  rw [servicePorts, List.map_map]
  exact List.map_id _

/-- Ascending numbers are determined by which numbers there are. -/
theorem portNumbers_eq_iff {endpoints others : List Endpoint} :
    portNumbers endpoints = portNumbers others ↔
      ∀ n, n ∈ portNumbers endpoints ↔ n ∈ portNumbers others := by
  constructor
  · intro h n
    rw [h]
  · exact (portNumbers_ascending endpoints).eq_of_mem_iff (portNumbers_ascending others)

/-- The ports of an entry have strictly ascending numbers, which are those that the endpoints use.
Each port is named after the protocol of its number, with the protocol in upper case, and sends the
traffic to no other port. Two lists of endpoints have the same ports exactly when they use the same
numbers, in whatever order, however often and under whatever names. -/
theorem service_ports_canonical (endpoints : List Endpoint) :
    let ports := servicePorts endpoints
    (ports.map (·.number)).Pairwise (· < ·) ∧
    (∀ n, n ∈ ports.map (·.number) ↔ UsesNumber endpoints n) ∧
    (∀ port ∈ ports, port.name = protocolOf port.number ∧
      port.protocol = Text.asciiUppercase port.name ∧ port.targetPort = none) ∧
    ∀ others, ports = servicePorts others ↔ ∀ n, UsesNumber endpoints n ↔ UsesNumber others n := by
  intro ports
  have hnumbers : ports.map (·.number) = portNumbers endpoints := map_number_servicePorts endpoints
  refine ⟨?_, fun n => ?_, fun port hport => ?_, fun others => ?_⟩
  · rw [hnumbers]
    exact portNumbers_ascending endpoints
  · rw [hnumbers]
    exact mem_portNumbers_iff_usesNumber
  · obtain ⟨n, -, rfl⟩ := List.mem_map.mp hport
    exact ⟨rfl, rfl, rfl⟩
  · have hports : ports = servicePorts others ↔ portNumbers endpoints = portNumbers others := by
      constructor
      · intro h
        rw [← hnumbers, h, map_number_servicePorts]
      · exact congrArg (List.map servicePort)
    rw [hports, portNumbers_eq_iff]
    simp only [mem_portNumbers_iff_usesNumber]

/-- The order, a repetition and the names of the ports of endpoints do not matter. -/
theorem renamed_ports_alike :
    let web := (Endpoint.onPort "10.0.0.1" 8080).withPort "admin" 80
    let grpc := Endpoint.withPort (Endpoint.onPort "10.0.0.2" 80) "grpc" 8080
    let port : Port := { number := 8080, protocol := "TCP", name := "tcp" }
    (∀ n, UsesNumber [web] n ↔ UsesNumber [grpc, web] n) ∧
      servicePorts [web] = servicePorts [grpc, web] ∧ port ∈ servicePorts [web] ∧
      port.name = protocolOf port.number ∧ port.protocol = Text.asciiUppercase port.name ∧
      port.targetPort = none := by
  intro web grpc port
  obtain ⟨-, -, hnamed, halike⟩ := service_ports_canonical [web]
  have hport : port ∈ servicePorts [web] := by decide
  have hsame : ∀ n, UsesNumber [web] n ↔ UsesNumber [grpc, web] n := by
    intro n
    simp only [← mem_portNumbers_iff_usesNumber]
    have hweb : portNumbers [web] = [80, 8080] := by decide
    have hboth : portNumbers [grpc, web] = [80, 8080] := by decide
    rw [hweb, hboth]
  exact ⟨hsame, (halike _).mpr hsame, hport, hnamed port hport⟩

/-! ## Numbers and the names after them -/

/-- The numbers that have a protocol of their own. -/
def wellKnownPorts : List UInt32 := [80, 443, 3306, 6379, 27017]

theorem protocolOf_of_plain {n : UInt32} (h : n ∉ wellKnownPorts) : protocolOf n = "tcp" := by
  simp only [wellKnownPorts, List.mem_cons, List.not_mem_nil, or_false, not_or] at h
  obtain ⟨hhttp, hhttps, hmysql, hredis, hmongo⟩ := h
  simp [protocolOf, hhttp, hhttps, hmysql, hredis, hmongo]

/-- A number with a protocol of its own shares its name with no other number. -/
theorem eq_of_protocolOf_eq {n m : UInt32} (h : n ∈ wellKnownPorts)
    (heq : protocolOf n = protocolOf m) : n = m := by
  by_cases hm : m ∈ wellKnownPorts
  · have hdistinct : ∀ n ∈ wellKnownPorts, ∀ m ∈ wellKnownPorts,
        protocolOf n = protocolOf m → n = m := by simp [wellKnownPorts, protocolOf]
    exact hdistinct n h m hm heq
  · have hother : ∀ n ∈ wellKnownPorts, protocolOf n ≠ "tcp" := by
      simp [wellKnownPorts, protocolOf]
    rw [protocolOf_of_plain hm] at heq
    exact absurd heq (hother n h)

/-- Names tell numbers apart as long as at most one number has no protocol of its own. -/
theorem nodup_map_protocolOf_iff {numbers : List UInt32} (h : numbers.Nodup) :
    (numbers.map protocolOf).Nodup ↔
      ∀ n ∈ numbers, ∀ m ∈ numbers, n ∉ wellKnownPorts → m ∉ wellKnownPorts → n = m := by
  rw [List.nodup_map_iff_inj_on h]
  constructor
  · intro hinj n hn m hm hplain hplain'
    apply hinj n hn m hm
    rw [protocolOf_of_plain hplain, protocolOf_of_plain hplain']
  · intro hone n hn m hm heq
    by_cases hplain : n ∈ wellKnownPorts
    · exact eq_of_protocolOf_eq hplain heq
    · by_cases hplain' : m ∈ wellKnownPorts
      · exact (eq_of_protocolOf_eq hplain' heq.symm).symm
      · exact hone n hn m hm hplain hplain'

/-! ## Instances -/

namespace ServiceInstance

variable {i : ServiceInstance} {e : Endpoint} {name : String} {n : UInt32}

/-- An instance is reached at a number: at the one it reports, or else at both web ports. -/
def Serves (i : ServiceInstance) (n : UInt32) : Prop :=
  if i.servicePort = 0 then n = 80 ∨ n = 443 else n = i.servicePort

/-- An instance with an address reports a number that has no protocol of its own. -/
def HasPlainPort (i : ServiceInstance) : Prop :=
  i.address ≠ "" ∧ i.servicePort ≠ 0 ∧ i.servicePort ∉ wellKnownPorts

/-- The ports of an instance's endpoint, each of them named after its number. -/
theorem mem_ports_iff (h : i.endpoint? = some e) :
    (name, n) ∈ e.ports.entries ↔ i.Serves n ∧ name = protocolOf n := by
  have hgives := endpoint?_eq_some_iff.mp h
  rw [← SortedMap.get?_eq_some_iff]
  unfold Serves
  split
  next hport =>
    have hhttp : protocolOf 80 = "http" := rfl
    have hhttps : protocolOf 443 = "https" := rfl
    rw [hgives.web hport]
    constructor
    · rintro (⟨rfl, rfl⟩ | ⟨rfl, rfl⟩)
      · exact ⟨.inl rfl, hhttp.symm⟩
      · exact ⟨.inr rfl, hhttps.symm⟩
    · rintro ⟨rfl | rfl, rfl⟩
      · exact .inl ⟨hhttp, rfl⟩
      · exact .inr ⟨hhttps, rfl⟩
  next hport =>
    rw [hgives.reported hport]
    constructor
    · rintro ⟨rfl, rfl⟩
      exact ⟨rfl, rfl⟩
    · rintro ⟨rfl, rfl⟩
      exact ⟨rfl, rfl⟩

theorem exists_serves_iff {instances : List ServiceInstance} :
    n ∈ portNumbers (instances.filterMap (·.endpoint?)) ↔
      ∃ i ∈ instances, i.address ≠ "" ∧ i.Serves n := by
  rw [mem_portNumbers_iff]
  constructor
  · rintro ⟨e, he, name, hmem⟩
    obtain ⟨i, hi, hendpoint⟩ := List.mem_filterMap.mp he
    exact ⟨i, hi, exists_endpoint?_iff.mp ⟨e, hendpoint⟩, ((mem_ports_iff hendpoint).mp hmem).1⟩
  · rintro ⟨i, hi, haddress, hserves⟩
    obtain ⟨e, he⟩ := exists_endpoint?_iff.mpr haddress
    refine ⟨e, List.mem_filterMap.mpr ⟨i, hi, he⟩, protocolOf n, ?_⟩
    exact (mem_ports_iff he).mpr ⟨hserves, rfl⟩

/-- The plain numbers are those that instances report themselves. -/
theorem Serves.plain_iff (haddress : i.address ≠ "") :
    i.Serves n ∧ n ∉ wellKnownPorts ↔ i.HasPlainPort ∧ n = i.servicePort := by
  unfold Serves HasPlainPort
  split
  next hport =>
    constructor
    · rintro ⟨rfl | rfl, hplain⟩
      · exact absurd (by decide) hplain
      · exact absurd (by decide) hplain
    · rintro ⟨⟨-, hne, -⟩, -⟩
      exact absurd hport hne
  next hport =>
    constructor
    · rintro ⟨rfl, hplain⟩
      exact ⟨⟨haddress, hport, hplain⟩, rfl⟩
    · rintro ⟨⟨-, -, hplain⟩, rfl⟩
      exact ⟨rfl, hplain⟩

end ServiceInstance

/-! ## Built entries -/

namespace EntryBuilder

/-- The names of the ports of an entry that is built from instances tell them apart exactly when the
instances report at most one number that has no protocol of its own. In any case a port of one of
its endpoints is a port of the entry, with the name and the number, and the only one of that
number. -/
theorem port_names_distinct_iff (b : EntryBuilder) (host : String)
    (instances : List ServiceInstance) :
    let spec := (b.build host (instances.filterMap (·.endpoint?))).spec
    ((spec.ports.map (·.name)).Nodup ↔
      ∀ i ∈ instances, ∀ j ∈ instances, i.HasPlainPort → j.HasPlainPort →
        i.servicePort = j.servicePort) ∧
    ∀ e ∈ spec.endpoints, ∀ name number, e.ports.get? name = some number →
      ∃ port ∈ spec.ports, port.name = name ∧ port.number = number ∧
        ∀ other ∈ spec.ports, other.number = number → other = port := by
  intro spec
  have hports :
      spec.ports = (portNumbers (instances.filterMap (·.endpoint?))).map servicePort := rfl
  constructor
  · have hnames : spec.ports.map (·.name) =
        (portNumbers (instances.filterMap (·.endpoint?))).map protocolOf := by
      rw [hports, List.map_map]
      rfl
    rw [hnames, nodup_map_protocolOf_iff (nodup_portNumbers _)]
    constructor
    · intro hone i hi j hj hplain hplain'
      have hserves := (ServiceInstance.Serves.plain_iff hplain.1).mpr ⟨hplain, rfl⟩
      have hserves' := (ServiceInstance.Serves.plain_iff hplain'.1).mpr ⟨hplain', rfl⟩
      exact hone _ (ServiceInstance.exists_serves_iff.mpr ⟨i, hi, hplain.1, hserves.1⟩) _
        (ServiceInstance.exists_serves_iff.mpr ⟨j, hj, hplain'.1, hserves'.1⟩) hserves.2 hserves'.2
    · intro hone n hn m hm hn' hm'
      obtain ⟨i, hi, haddress, hserves⟩ := ServiceInstance.exists_serves_iff.mp hn
      obtain ⟨j, hj, haddress', hserves'⟩ := ServiceInstance.exists_serves_iff.mp hm
      obtain ⟨hplain, rfl⟩ := (ServiceInstance.Serves.plain_iff haddress).mp ⟨hserves, hn'⟩
      obtain ⟨hplain', rfl⟩ := (ServiceInstance.Serves.plain_iff haddress').mp ⟨hserves', hm'⟩
      exact hone i hi j hj hplain hplain'
  · intro e he name number hget
    obtain ⟨i, hi, hendpoint⟩ := List.mem_filterMap.mp he
    have hmem := SortedMap.get?_eq_some_iff.mp hget
    have hname := ((ServiceInstance.mem_ports_iff hendpoint).mp hmem).2
    have hnumber : number ∈ portNumbers (instances.filterMap (·.endpoint?)) :=
      mem_portNumbers_iff.mpr ⟨e, he, name, hmem⟩
    refine ⟨servicePort number, ?_, hname.symm, rfl, ?_⟩
    · rw [hports]
      exact List.mem_map_of_mem hnumber
    · -- A port of the entry is determined by its number.
      intro other hother heq
      rw [hports] at hother
      obtain ⟨n, -, rfl⟩ := List.mem_map.mp hother
      exact congrArg servicePort heq

/-- Two instances at one number without a protocol of its own, and one that reports no number. -/
theorem one_plain_port_is_named :
    let instances : List ServiceInstance :=
      [{ serviceAddress := "10.0.0.1", servicePort := 8080 },
        { serviceAddress := "10.0.0.2", servicePort := 8080 }, { nodeAddress := "10.0.0.3" }]
    let b : EntryBuilder := { space := "default", registry := .consul }
    let spec := (b.build "orders" (instances.filterMap (·.endpoint?))).spec
    let e := Endpoint.onPort "10.0.0.2" 8080
    (spec.ports.map (·.name)).Nodup ∧ e ∈ spec.endpoints ∧ e.ports.get? "tcp" = some 8080 ∧
      ∃ port ∈ spec.ports, port.name = "tcp" ∧ port.number = 8080 ∧
        ∀ other ∈ spec.ports, other.number = 8080 → other = port := by
  intro instances b spec e
  obtain ⟨hnames, hfound⟩ := port_names_distinct_iff b "orders" instances
  have he : e ∈ spec.endpoints := by decide
  have hget : e.ports.get? "tcp" = some 8080 := by decide
  refine ⟨hnames.mpr ?_, he, hget, hfound e he "tcp" 8080 hget⟩
  -- The instance without a number reports none, so it is not one of those compared.
  have hport : ∀ i ∈ instances, i.HasPlainPort → i.servicePort = 8080 := by
    simp [instances, ServiceInstance.HasPlainPort]
  intro i hi j hj hplain hplain'
  rw [hport i hi hplain, hport j hj hplain']

/-- Two instances at numbers without a protocol of their own give an entry two ports of one name. -/
theorem plain_ports_share_name :
    let instances : List ServiceInstance :=
      [{ serviceAddress := "10.0.0.1", servicePort := 8080 },
        { serviceAddress := "10.0.0.2", servicePort := 9090 }]
    let b : EntryBuilder := { space := "default", registry := .consul }
    ¬ ((b.build "orders" (instances.filterMap (·.endpoint?))).spec.ports.map (·.name)).Nodup := by
  decide

end EntryBuilder

end MeshRegistry
