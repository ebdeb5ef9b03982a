/-!
# Sizes that cannot be had

The events that are kept, the connections of the gateway and the scripts that run at once are
limited by what a machine of 64 bits can count and address.

* `CapacityFault` lists why a size is refused, `CapacityFault.message` gives the words;
* `maxBytes` and `maxPermits` are the limits.
-/

namespace PanelScript

-- Powers are those of the core library.
attribute [local instance (2000)] instPowNat

/-- Why a size cannot be had. -/
inductive CapacityFault where
  /-- No event could be kept. -/
  | noEvents
  | tooManyEvents
  | tooManyPermits
  /-- More memory would be needed than can be addressed. -/
  | tooLarge
  deriving DecidableEq

/-- The most bytes that one block of memory may have. -/
def maxBytes : Nat := 2 ^ (63 : Nat) - 1

/-- The most permits that may be handed out. -/
def maxPermits : Nat := 2 ^ (61 : Nat) - 1

/-- The words for a size that cannot be had. -/
def CapacityFault.message : CapacityFault → String
  | .noEvents => "broadcast channel capacity cannot be zero"
  | .tooManyEvents => "broadcast channel capacity exceeded `usize::MAX / 2`"
  | .tooManyPermits => s!"a semaphore may not have more than MAX_PERMITS permits ({maxPermits})"
  | .tooLarge => "capacity overflow"

end PanelScript
