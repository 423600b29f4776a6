/- Models that differ at most in their two passwords.
   Everything shown of a model, and everything looked up in it, is the same for both. -/
import SceneConfig.Model.Dump
import SceneConfig.Model.Summary

namespace SceneConfig.Model

structure EqUpToSecrets (model other : Model) : Prop where
  ssid : model.wifi.ssid = other.wifi.ssid
  timezone : model.timezone = other.timezone
  address : model.broker.address = other.broker.address
  username : model.broker.username = other.broker.username
  groups : model.groups = other.groups

namespace EqUpToSecrets
variable {model other : Model}

theorem eq (h : model.EqUpToSecrets other) (wifi : model.wifi.password = other.wifi.password)
    (broker : model.broker.password = other.broker.password) : model = other := by
  obtain ⟨⟨ssid, password⟩, timezone, ⟨address, username, secret⟩, groups⟩ := model
  obtain ⟨⟨ssid', password'⟩, timezone', ⟨address', username', secret'⟩, groups'⟩ := other
  obtain ⟨rfl, rfl, rfl, rfl, rfl⟩ := h
  cases wifi
  cases broker
  rfl

theorem toJson_eq (h : model.EqUpToSecrets other) : model.toJson = other.toJson := by
  simp only [toJson, h.ssid, h.timezone, h.address, h.username, h.groups]

theorem dump_eq (h : model.EqUpToSecrets other) : model.dump = other.dump := by
  rw [dump, h.toJson_eq, dump]

theorem summary_eq (h : model.EqUpToSecrets other) : model.summary = other.summary := by
  simp only [summary, summaryLines, headLines, shownTimezone, h.ssid, h.timezone, h.address,
    h.username, h.groups]

theorem subscribeTopics_eq (h : model.EqUpToSecrets other) :
    model.subscribeTopics = other.subscribeTopics := by
  rw [subscribeTopics, h.groups, subscribeTopics]

end EqUpToSecrets

end SceneConfig.Model
