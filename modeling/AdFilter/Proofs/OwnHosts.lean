import AdFilter.Proofs.RepeatedLowering
import AdFilter.Request

namespace AdFilter

/-!
# Requests of a page to its own host

A page is known by the host of its address, and a request for that address belongs to the page's own party.  Of a host all
is lowered but the zone of an address, which keeps its letters; the domain of a page is lowered as a whole.  The two agree
as long as the zone has no letter with another lower-case form.
-/

namespace Url

variable {url written : Text}

/-- The zone of a host with the percent sign before it, if the host has one. -/
def zone (host : Text) : Text :=
  host.dropWhile (· ≠ '%')

/-! ## The letters of a host -/

/-- Lowering a host leaves its zone as it is written. -/
theorem zone_lowerHost
    (written : Text) :
    zone (lowerHost written) = zone written := by
  have noPercent :
      ∀ c ∈ Text.lower (written.takeWhile (· ≠ '%')),
        decide (c ≠ '%') = true := by
    intro c member
    rw [decide_eq_true_eq]
    rintro rfl
    have inName :=
      Text.mem_of_mem_lowerFrom_of_isMark
        (by decide : Text.isMark '%' = true) member
    simpa using List.mem_takeWhile_imp inName
  rw [zone, lowerHost, List.dropWhile_append_of_pos noPercent]
  exact List.dropWhile_idempotent _ written

/-- What is not in lower case in a lowered host stands in its zone. -/
theorem lowerChar_of_mem_lowerHost
    {c : Char}
    (member : c ∈ lowerHost written) :
    Text.lowerChar c = c ∨ c ∈ zone (lowerHost written) := by
  rw [zone_lowerHost]
  rcases List.mem_append.mp member with inName | inZone
  · exact Or.inl (Text.lowerChar_of_mem_lowerFrom inName)
  · exact Or.inr inZone

theorem exists_host_eq_lowerHost
    (hasHost : host url ≠ []) :
    ∃ written, host url = lowerHost written := by
  unfold host at hasHost ⊢
  split at hasHost
  · exact absurd rfl hasHost
  · split at hasHost
    · rename_i sound
      exact ⟨_, if_pos sound⟩
    · exact absurd rfl hasHost

/-- A host is in lower case if its zone is. -/
theorem lower_host_eq_self_iff
    (hasHost : host url ≠ []) :
    Text.lower (host url) = host url ↔
      ∀ c ∈ zone (host url), Text.lowerChar c = c := by
  obtain ⟨written, shape⟩ := exists_host_eq_lowerHost hasHost
  rw [Text.lower_eq_self_iff, shape]
  constructor
  · intro lowered c inZone
    exact lowered c ((List.dropWhile_sublist _).subset inZone)
  · intro zoneLowered c member
    rcases lowerChar_of_mem_lowerHost member with lowered | inZone
    · exact lowered
    · exact zoneLowered c inZone

/-! ## Parties -/

/-- A host that is not in lower case is neither above nor below its lower-case form. -/
theorem not_isSubdomain_of_lower_ne
    (changes : Text.lower written ≠ written) :
    isSubdomain (Text.lower written) written = false ∧
      isSubdomain written (Text.lower written) = false := by
  simp only [isSubdomain, Bool.eq_false_iff, ne_eq,
    List.isSuffixOf_iff_suffix]
  constructor
  · intro below
    have inside : written ⊆ Text.lower written :=
      fun c member => below.subset (List.mem_cons_of_mem _ member)
    exact changes
      (Text.lower_eq_self_of_subset (Text.lower_lower written) inside)
  · intro above
    have shorter := above.length_le
    have longer := Text.length_le_length_lowerFrom false written
    rw [List.length_cons, Text.lower] at shorter
    omega

/-- The host of an address is of its own party exactly if it is in lower case. -/
theorem isThirdParty_host_eq_false_iff
    (hasHost : host url ≠ []) :
    isThirdParty url (host url) = false ↔
      Text.lower (host url) = host url := by
  unfold isThirdParty
  dsimp only
  rw [if_neg hasHost]
  constructor
  · intro ownParty
    by_contra changes
    obtain ⟨notBelow, notAbove⟩ := not_isSubdomain_of_lower_ne changes
    rw [if_neg (Ne.symm changes), notBelow, notAbove] at ownParty
    cases ownParty
  · intro lowered
    rw [if_pos lowered.symm]

/--
A request of a page to its own host is not third-party exactly if the zone of the host has no letter with another
lower-case form.  A host without a zone therefore always is of its own party.
-/
theorem isThirdParty_own_host_iff
    (hasHost : host url ≠ []) :
    isThirdParty url (host url) = false ↔
      ∀ c ∈ zone (host url), Text.lowerChar c = c :=
  (isThirdParty_host_eq_false_iff hasHost).trans
    (lower_host_eq_self_iff hasHost)

/-- A request for an address in capitals, with user information, a port and a zone in small letters, is of its own party. -/
theorem isThirdParty_own_host_of_small_zone :
    host "HTTP://User@[FE80::1%eth0]:80/".toList ≠ [] ∧
      isThirdParty "HTTP://User@[FE80::1%eth0]:80/".toList
          (host "HTTP://User@[FE80::1%eth0]:80/".toList) =
        false := by
  have shape :
      host "HTTP://User@[FE80::1%eth0]:80/".toList =
        "fe80::1%eth0".toList := by
    decide +kernel
  have hasHost : host "HTTP://User@[FE80::1%eth0]:80/".toList ≠ [] := by
    rw [shape]
    exact nofun
  refine ⟨hasHost, (isThirdParty_own_host_iff hasHost).mpr ?_⟩
  rw [shape, ← Text.lower_eq_self_iff]
  decide +kernel

/-- A page whose address has a zone in capitals is third-party to itself. -/
theorem isThirdParty_own_host_of_capital_zone :
    host "http://[fe80::1%ETH0]/".toList = "fe80::1%ETH0".toList ∧
      isThirdParty "http://[fe80::1%ETH0]/".toList
          (host "http://[fe80::1%ETH0]/".toList) =
        true := by
  have shape :
      host "http://[fe80::1%ETH0]/".toList = "fe80::1%ETH0".toList := by
    decide +kernel
  have hasHost : host "http://[fe80::1%ETH0]/".toList ≠ [] := by
    rw [shape]
    exact nofun
  refine ⟨shape, Bool.eq_true_of_not_eq_false ?_⟩
  rw [isThirdParty_host_eq_false_iff hasHost, shape]
  decide +kernel

end Url

end AdFilter
