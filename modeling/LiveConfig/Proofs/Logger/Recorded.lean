import LiveConfig.Logger.Basic
import LiveConfig.Proofs.Json.ReadBack
/-!
A record is read back from its line.

The line of a record is a JSON text. If no field bears the name of one of the members that stand in
every record, its names are distinct, and under each stands what was logged.
-/

set_option autoImplicit false

namespace LiveConfig.Logger

namespace Record

def fixedNames : List String := ["time", "level", "msg"]

def others (ms : List (String × Json)) : List (String × Json) := Json.arrange (Json.plainMembers ms)

variable {r : Record} {ms : List (String × Json)}

theorem names_fixed (r : Record) : r.fixed.map (·.1) = fixedNames := rfl

theorem integral_fixed (r : Record) : ∀ m ∈ r.fixed, m.2.Integral := by
  simp [fixed, Json.Integral]

theorem mem_names_others {name : String} : name ∈ (others ms).map (·.1) ↔ name ∈ ms.map (·.1) := by
  rw [others, Json.mem_names_arrange, Json.names_plainMembers]

theorem plain_fields (h : r.fields.members? = some ms) : r.fields.plain = .record (others ms) := by
  cases hfields : r.fields <;> rw [hfields] at h <;> cases h
  rfl

theorem toJson_of_members (h : r.fields.members? = some ms) :
    r.toJson = .record (r.fixed ++ others ms) := by
  rw [toJson, plain_fields h]
  rfl

theorem toJson_of_none (h : r.fields.members? = none) : r.toJson = .record r.fixed := by
  have hnone : r.fields.plain.members? = none := by
    cases hfields : r.fields with
    | record ms =>
        rw [hfields] at h
        cases h
    | _ => rfl
  rw [toJson, hnone]
  rfl

theorem integral_toJson (h : r.fields.members? = some ms) (hintegral : r.fields.Integral) :
    r.toJson.Integral := by
  have hothers : ∀ m ∈ others ms, m.2.Integral := by
    have hplain := hintegral.plain
    rw [plain_fields h] at hplain
    exact Json.integralMembers_iff.mp hplain
  rw [toJson_of_members h]
  exact Json.integralMembers_iff.mpr (List.forall_mem_append.mpr ⟨integral_fixed r, hothers⟩)

theorem read?_line (h : r.toJson.Integral) : Json.read? none r.line = some r.toJson := by
  have hbreak : ∀ c ∈ "\n".toList, Json.isSpace c = true := List.all_eq_true.mp (by decide)
  exact Json.read?_compact h hbreak

theorem nodup_names (h : ∀ m ∈ ms, m.1 ∉ fixedNames) :
    ((r.fixed ++ others ms).map (·.1)).Nodup := by
  rw [List.map_append, names_fixed, List.nodup_append]
  refine ⟨by decide, (Json.ascending_arrange _).nodup, ?_⟩
  rintro name hfixed other hother rfl
  obtain ⟨m, hm, rfl⟩ := List.mem_map.mp (mem_names_others.mp hother)
  exact h m hm hfixed

/-- What is found among the fields stands in the record in its plain form. -/
theorem mem_others {name : String} {value : Json} (h : (Json.record ms).get? name = some value) :
    (name, value.plain) ∈ others ms := by
  rw [others, Json.mem_arrange, Json.get?_plainMembers, h]
  rfl

end Record

/-- What a logger writes of a call is read back as one object. Its names are distinct: those that
stand in every record and those of the fields, if these are an object that keeps clear of the former.
Under them stand the time, the label, the message and every field as it was given; a field whose
value is not plain stands in its plain form. -/
theorem write_decodes (l : Logger) (s : Severity) (label message : String) (fields : Json)
    (o : Outside) :
    let line := Record.line ⟨o.time, label, message, fields⟩
    (l.enabled s = true → l.write s label message fields o =
        (o.write line l.output).mapError fun fault => .write fault.message) ∧
      (fields.members? = none → Json.read? none line = some (.record
        [("time", .text o.time), ("level", .text label), ("msg", .text message)])) ∧
      ∀ ms, fields.members? = some ms → fields.Integral →
        (∀ m ∈ ms, m.1 ∉ ["time", "level", "msg"]) →
        ∃ members, Json.read? none line = some (.record members) ∧
          (members.map (·.1)).Nodup ∧
          (∀ name, name ∈ members.map (·.1) ↔
            name ∈ ["time", "level", "msg"] ∨ name ∈ ms.map (·.1)) ∧
          ("time", .text o.time) ∈ members ∧ ("level", .text label) ∈ members ∧
          ("msg", .text message) ∈ members ∧
          ∀ name value, fields.get? name = some value →
            (name, value.plain) ∈ members ∧ (value.IsPlain → (name, value) ∈ members) := by
  intro line
  let r : Record := ⟨o.time, label, message, fields⟩
  refine ⟨?_, ?_, ?_⟩
  · intro henabled
    rw [write, if_pos henabled]
    cases o.write line l.output <;> rfl
  · intro hnone
    have hjson : r.toJson = .record r.fixed := Record.toJson_of_none hnone
    have hintegral : r.toJson.Integral := by
      rw [hjson]
      exact Json.integralMembers_iff.mpr (Record.integral_fixed r)
    exact (Record.read?_line hintegral).trans (congrArg some hjson)
  · intro ms hms hintegral hfree
    have hjson : r.toJson = .record (r.fixed ++ Record.others ms) := Record.toJson_of_members hms
    have hread := Record.read?_line (Record.integral_toJson (r := r) hms hintegral)
    have hfixed : ∀ m ∈ r.fixed, m ∈ r.fixed ++ Record.others ms := fun m hm =>
      List.mem_append_left _ hm
    refine ⟨r.fixed ++ Record.others ms, hread.trans (congrArg some hjson), Record.nodup_names hfree,
      ?_, hfixed _ (by simp [Record.fixed, r]), hfixed _ (by simp [Record.fixed, r]),
      hfixed _ (by simp [Record.fixed, r]), ?_⟩
    · intro name
      rw [List.map_append, List.mem_append, Record.names_fixed, Record.mem_names_others]
      rfl
    · intro name value hvalue
      have hrecord : fields = .record ms := by
        cases fields <;> cases hms
        rfl
      rw [hrecord] at hvalue
      have hplain := List.mem_append_right r.fixed (Record.mem_others hvalue)
      refine ⟨hplain, fun h => ?_⟩
      rwa [Json.plain_eq h] at hplain

/-- Members inside each other, both ends of the numbers, and characters that have to be escaped. -/
private def hostile : List (String × Json) :=
  [("\u0001\"\\", .list [.int (-9223372036854775808), .nat 18446744073709551615,
      .record [("b", .null), ("a", .text "\u2028\u0000\n😀")]]), ("Level", .bool false)]

theorem write_decodes_hostile :
    let l : Logger := ⟨.upTo .error, .stdout⟩
    let o : Outside := { files := .start ["work"], time := "2024-05-01 10:00:00" }
    let line := Record.line ⟨o.time, "fatal", "say \"\t\\", .record hostile⟩
    l.enabled .error = true ∧ (Json.record hostile).Integral ∧
      (∀ m ∈ hostile, m.1 ∉ ["time", "level", "msg"]) ∧
      l.write .error "fatal" "say \"\t\\" (.record hostile) o =
        .ok { o with stdout := o.stdout ++ line } ∧
      ∃ members, Json.read? none line = some (.record members) ∧ (members.map (·.1)).Nodup ∧
        ("level", .text "fatal") ∈ members ∧ ("msg", .text "say \"\t\\") ∈ members ∧
        ("Level", .bool false) ∈ members := by
  intro l o line
  have henabled : l.enabled .error = true := by decide
  have hintegral : (Json.record hostile).Integral := by
    simp only [hostile, Json.int, Json.nat, Json.Integral, Json.IntegralMembers, Json.IntegralItems,
      Json.Number.Bounded, and_true]
    decide
  have hfree : ∀ m ∈ hostile, m.1 ∉ ["time", "level", "msg"] := by decide
  obtain ⟨hwrite, -, hread⟩ :=
    write_decodes l .error "fatal" "say \"\t\\" (.record hostile) o
  obtain ⟨members, hmembers, hnodup, -, -, hlevel, hmsg, hfields⟩ :=
    hread hostile rfl hintegral hfree
  obtain ⟨-, hplain⟩ := hfields "Level" (.bool false) (by rfl)
  have hstdout : ∀ text, o.write text l.output = .ok { o with stdout := o.stdout ++ text } :=
    fun _ => rfl
  rw [hstdout] at hwrite
  exact ⟨henabled, hintegral, hfree, hwrite henabled, members, hmembers, hnodup, hlevel,
    hmsg, hplain trivial⟩

end LiveConfig.Logger
