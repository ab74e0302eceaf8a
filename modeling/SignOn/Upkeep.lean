import SignOn.Site

/-!
# Upkeep

A running application can sweep its state at regular times. Wall time, which says what has expired,
may be set back; the timer that says when to sweep only goes forward. A sweep that comes late by
more than a tolerance starts the period anew.
-/

namespace SignOn

/-- The time of the wall and of the timer, in milliseconds. -/
structure Clock where
  wall : Int := 0
  timer : Nat := 0

/-- The clock after some time, which may be negative for the wall. -/
def Clock.advance (c : Clock) (milliseconds : Int) : Clock where
  wall := c.wall + milliseconds
  timer := c.timer + milliseconds.toNat

/-- Regular sweeps. -/
structure Upkeep where
  period : Nat
  period_pos : 0 < period
  /-- The timer value at which the next sweep is due. -/
  due : Nat
  /-- Whether there will be no more sweeps. -/
  finished : Bool := false

namespace Upkeep

/-- How late a sweep may be without its being noticed. -/
def tolerance : Nat := 5

/-- When the sweep after one that was due at `due` and happens at `now` is due. -/
def nextDue (period due now : Nat) : Nat :=
  if due + tolerance < now then now + period else due + period * ((now - due) / period + 1)

/-- Regular sweeps that start with one at once. They are at least a millisecond apart. -/
def start (period : Nat) (clock : Clock) : Upkeep where
  period := max 1 period
  period_pos := by omega
  due := clock.timer

/-- Do what is due. Sweeping ends at the first due time at which the application is gone. -/
def run (u : Upkeep) (clock : Clock) (running : Bool) (state : SharedState) :
    Upkeep × SharedState :=
  if u.finished ∨ clock.timer < u.due then (u, state)
  else if running then
    ({ u with due := nextDue u.period u.due clock.timer }, state.sweep clock.wall)
  else ({ u with finished := true }, state)

end Upkeep

end SignOn
