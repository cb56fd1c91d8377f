import MeshRegistry.Text.Pieces
/-!
# Host names of registry services

A registry service becomes a mesh host under a name that object names allow: underscores turn
into hyphens. The key of a service in a watcher's snapshot is the watcher's own beginning
followed by that name.

## Main definitions

- `HostName.formatted`: the service name with hyphens for underscores.
- `HostName.key`: the snapshot key of a service.
-/

namespace MeshRegistry.HostName

/-- A service name with every underscore replaced by a hyphen. -/
def formatted (host : String) : String := Text.replaceChar '_' '-' host

/-- The snapshot key of a service: the registry's own beginning, then the formatted name. -/
def key (hostPrefix service : String) : String := hostPrefix ++ formatted service

/-- Formatting leaves a name without underscores as it is. -/
theorem formatted_of_not_mem {host : String} (h : '_' ∉ host.toList) : formatted host = host := by
  have : (host.toList.map fun c => if c = '_' then '-' else c) = host.toList := by
    refine (List.map_congr_left fun c hc => ?_).trans (List.map_id _)
    have : c ≠ '_' := fun he => h (he ▸ hc)
    simp [this]
  rw [formatted, Text.replaceChar, this, String.ofList_toList]

/-- No underscore is left after formatting. -/
theorem underscore_not_mem_formatted (host : String) : '_' ∉ (formatted host).toList := by
  rw [formatted, Text.replaceChar, String.toList_ofList]
  intro h
  obtain ⟨c, _, hc⟩ := List.mem_map.mp h
  split at hc
  · exact absurd hc (by decide)
  · contradiction

theorem formatted_append (a b : String) : formatted (a ++ b) = formatted a ++ formatted b := by
  apply String.ext
  simp [formatted, Text.replaceChar]

/-- The host of a service is named after its beginning and the service. -/
theorem formatted_key (hostPrefix service : String) :
    formatted (key hostPrefix service) = formatted hostPrefix ++ formatted service := by
  rw [key, formatted_append, formatted_of_not_mem (underscore_not_mem_formatted service)]

/-- Hosts of one registry are told apart by their names. -/
theorem key_eq_of_formatted_eq {hostPrefix service other : String}
    (h : formatted (key hostPrefix other) = formatted (key hostPrefix service)) :
    key hostPrefix other = key hostPrefix service := by
  rw [formatted_key, formatted_key] at h
  have hlists := congrArg String.toList h
  rw [String.toList_append, String.toList_append] at hlists
  rw [key, key, String.ext (List.append_cancel_left hlists)]

theorem key_ne_empty {service : String} (h : service ≠ "") (hostPrefix : String) :
    key hostPrefix service ≠ "" := by
  intro hempty
  have hformatted : (formatted service).toList = [] := by
    have hlist := congrArg String.toList hempty
    rw [key, String.toList_append] at hlist
    exact (List.append_eq_nil_iff.mp hlist).2
  rw [formatted, Text.replaceChar, String.toList_ofList, List.map_eq_nil_iff] at hformatted
  exact h (String.ext hformatted)

/-- Formatting a second time changes nothing. -/
@[simp] theorem formatted_formatted (host : String) :
    formatted (formatted host) = formatted host :=
  formatted_of_not_mem (underscore_not_mem_formatted host)

end MeshRegistry.HostName
