import Cloud3D.Config.Format
import Cloud3D.Balancer.Registry

/-!
# The sweep of a configured balancer

The number of the last `heartbeat=` line is doubled for the period of `updateServerList`
and is the threshold of `removeInactiveServer`. The parser passes on every `int` that
`std::stoi` delivers, and no one checks it afterwards; `heartbeat_sound_iff` says which
numbers are good for both purposes.
-/

namespace Cloud3D

namespace LoadBalanceImpl

/-- The milliseconds that `updateServerList` sleeps for. An overflow of the product has no
defined result. -/
def sleepPeriod (heartBeatRate : Int32) : Option Int :=
  let period := 2 * heartBeatRate.toInt
  if -2 ^ 31 ≤ period ∧ period < 2 ^ 31 then some period else none

/-- The sweeper sleeps between two sweeps, and a sweep keeps every node whose last message
is processed at the same time. -/
structure SoundSweep (heartBeatRate : Int32) : Prop where
  sleeps : ∃ period, sleepPeriod heartBeatRate = some period ∧ 0 < period
  threshold : 0 ≤ heartBeatRate.toInt
  keeps : ∀ {float : Type} (servers : List (ServerNode float)) (now : Int),
    ∀ server ∈ servers, server.lastBeat = now →
      server ∈ (removeInactiveServer ⟨servers, heartBeatRate.toInt⟩ now).servers

theorem soundSweep_iff (heartBeatRate : Int32) :
    SoundSweep heartBeatRate ↔ 0 < heartBeatRate.toInt ∧ heartBeatRate.toInt < 2 ^ 30 := by
  constructor
  · rintro ⟨⟨period, slept, positive⟩, -, -⟩
    simp only [sleepPeriod, Option.ite_none_right_eq_some, Option.some.injEq] at slept
    omega
  · rintro ⟨positive, bounded⟩
    refine ⟨⟨2 * heartBeatRate.toInt, ?_, by omega⟩, by omega, ?_⟩
    · apply if_pos
      omega
    · intro float servers now server member fresh
      apply (mem_removeInactiveServer _ now server).mpr
      refine ⟨member, ?_⟩
      rw [fresh, Int.sub_self]
      show (0 : Int) ≤ heartBeatRate.toInt
      omega

end LoadBalanceImpl

/-- The last line which sets the heartbeat. -/
def lastHeartbeat (text : String) : Option String :=
  ((getlines text).filter (startsWith "heartbeat=")).getLast?

/-- The setting of an accepted text gives a sound sweep if and only if it does not set the
heartbeat, or the number on the last line which does is positive and below `2 ^ 30`. -/
theorem heartbeat_sound_iff (text : String)
    (accepted : (FileParser.parseBalancerConfig (some text) {}).isOk) :
    (∀ config, FileParser.parseBalancerConfig (some text) {} = .ok config →
      LoadBalanceImpl.SoundSweep config.heartBeat) ↔
    ∀ line, lastHeartbeat text = some line →
      ∀ number, stoi (rest "heartbeat=" line) = .ok number →
        0 < number.toInt ∧ number.toInt < 2 ^ 30 := by
  cases parsed : FileParser.parseBalancerConfig (some text) {} with
  | error thrown =>
      rw [parsed] at accepted
      cases accepted
  | ok config =>
      have setting := (FileParser.parseBalancerConfig_read parsed).heartBeat
      rw [Setting, Dispatch.LastWins, ← lastHeartbeat] at setting
      have only : (∀ config', Except.ok config = (.ok config' : Except Thrown BalancerConfig) →
          LoadBalanceImpl.SoundSweep config'.heartBeat) ↔
          LoadBalanceImpl.SoundSweep config.heartBeat :=
        ⟨fun sound => sound config rfl, fun sound config' same => Except.ok.inj same ▸ sound⟩
      rw [only, LoadBalanceImpl.soundSweep_iff]
      cases last : lastHeartbeat text with
      | none =>
          rw [last] at setting
          rw [show config.heartBeat = 1000 from setting]
          exact iff_of_true (by decide) (by simp)
      | some line =>
          rw [last] at setting
          constructor
          · rintro sound _ ⟨⟩ number converted
            obtain rfl : number = config.heartBeat :=
              Except.ok.inj (converted.symm.trans setting)
            exact sound
          · intro sound
            exact sound line rfl config.heartBeat setting

theorem heartbeat_sound_half_second :
    ∃ config, FileParser.parseBalancerConfig (some "heartbeat=0\nheartbeat=500") {} = .ok config ∧
      LoadBalanceImpl.SoundSweep config.heartBeat := by
  have parsed : FileParser.parseBalancerConfig (some "heartbeat=0\nheartbeat=500") {} =
      .ok { heartBeat := 500 } := by decide
  have last : lastHeartbeat "heartbeat=0\nheartbeat=500" = some "heartbeat=500" := by decide
  have number : stoi (rest "heartbeat=" "heartbeat=500") = .ok 500 := by decide
  refine ⟨_, parsed, ?_⟩
  apply (heartbeat_sound_iff "heartbeat=0\nheartbeat=500" (by decide)).mpr _ _ parsed
  intro line found value converted
  obtain rfl : "heartbeat=500" = line := Option.some.inj (last.symm.trans found)
  obtain rfl : 500 = value := Except.ok.inj (number.symm.trans converted)
  decide

/-- Three accepted settings: the sweeper does not sleep, it removes a node that has just
been heard, its period overflows. -/
theorem heartbeat_not_sound :
    (FileParser.parseBalancerConfig (some "heartbeat=0") {} = .ok { heartBeat := 0 } ∧
      LoadBalanceImpl.sleepPeriod 0 = some 0 ∧ ¬ LoadBalanceImpl.SoundSweep 0) ∧
    (FileParser.parseBalancerConfig (some "heartbeat=-5") {} = .ok { heartBeat := -5 } ∧
      (LoadBalanceImpl.removeInactiveServer
        ⟨[(⟨"provider:1", [], 1, none, 7⟩ : ServerNode Int)], -5⟩ 7).servers = [] ∧
      ¬ LoadBalanceImpl.SoundSweep (-5)) ∧
    (FileParser.parseBalancerConfig (some "heartbeat=1073741824") {} =
        .ok { heartBeat := 1073741824 } ∧
      LoadBalanceImpl.sleepPeriod 1073741824 = none ∧
      ¬ LoadBalanceImpl.SoundSweep 1073741824) := by
  refine ⟨⟨by decide, by decide, ?_⟩, ⟨by decide, by decide, ?_⟩, ⟨by decide, by decide, ?_⟩⟩
  · exact fun sound => absurd ((LoadBalanceImpl.soundSweep_iff 0).mp sound) (by decide)
  · exact fun sound => absurd ((LoadBalanceImpl.soundSweep_iff (-5)).mp sound) (by decide)
  · exact fun sound => absurd ((LoadBalanceImpl.soundSweep_iff 1073741824).mp sound) (by decide)

end Cloud3D
