import LiveConfig.Proofs.Logger.Recorded
/-!
Fields that bear the name of a member of every record.

The members of the fields stand behind those that every record has, and nothing is done about names
that meet. So a name occurs twice in a line exactly if it is one of the first three and a field bears
it, and a reader to whom the last member of a name counts is shown the field.
-/

set_option autoImplicit false

namespace LiveConfig

namespace Json

variable {ms : List (String × Json)} {name : String}

theorem get?_append (first second : List (String × Json)) (name : String) :
    (record (first ++ second)).get? name =
      ((record second).get? name).or ((record first).get? name) := by
  simp only [get?, members?, Option.bind_some, List.reverse_append, List.find?_append,
    Option.map_or]

theorem get?_arrange (ms : List (String × Json)) (name : String) :
    (record (arrange ms)).get? name = (record ms).get? name := by
  refine Option.ext fun value => ?_
  rw [← mem_arrange, (ascending_arrange ms).arrange_eq, mem_arrange]

theorem plain_eq_text_iff {v : Json} {s : String} : v.plain = .text s ↔ v = .text s := by
  cases v <;> simp [plain]

end Json

namespace Logger

namespace Record

variable {r : Record} {ms : List (String × Json)}

theorem get?_others (ms : List (String × Json)) (name : String) :
    (Json.record (others ms)).get? name = ((Json.record ms).get? name).map Json.plain := by
  rw [others, Json.get?_arrange, Json.get?_plainMembers]

theorem get?_members (r : Record) (ms : List (String × Json)) (name : String) :
    (Json.record (r.fixed ++ others ms)).get? name =
      (((Json.record ms).get? name).map Json.plain).or ((Json.record r.fixed).get? name) := by
  rw [Json.get?_append, get?_others]

theorem get?_eq_text_iff {name text : String}
    (hfixed : (Json.record r.fixed).get? name = some (.text text)) :
    (Json.record (r.fixed ++ others ms)).get? name = some (.text text) ↔
      ∀ v, (Json.record ms).get? name = some v → v = .text text := by
  rw [get?_members, hfixed]
  cases (Json.record ms).get? name with
  | none => exact iff_of_true rfl nofun
  | some v => simp [Json.plain_eq_text_iff]

theorem count_names (r : Record) (ms : List (String × Json)) (name : String) :
    ((r.fixed ++ others ms).map (·.1)).count name =
      (if name ∈ fixedNames then 1 else 0) + (if name ∈ ms.map (·.1) then 1 else 0) := by
  have hfixed : fixedNames.Nodup := by decide
  have hothers : ((others ms).map (·.1)).Nodup := (Json.ascending_arrange _).nodup
  rw [List.map_append, names_fixed, List.count_append, hfixed.count, hothers.count]
  simp only [mem_names_others]

/-- The names that occur twice are those of fixed members that a field bears. -/
theorem twice_iff (r : Record) (ms : List (String × Json)) (name : String) :
    1 < ((r.fixed ++ others ms).map (·.1)).count name ↔
      name ∈ fixedNames ∧ name ∈ ms.map (·.1) := by
  rw [count_names]
  by_cases hfixed : name ∈ fixedNames <;> by_cases hfield : name ∈ ms.map (·.1) <;>
    simp [hfixed, hfield]

theorem nodup_names_iff (r : Record) (ms : List (String × Json)) :
    ((r.fixed ++ others ms).map (·.1)).Nodup ↔ ∀ m ∈ ms, m.1 ∉ fixedNames := by
  refine ⟨fun hnodup m hm hfixed => ?_, nodup_names⟩
  have htwice := (twice_iff r ms m.1).mpr ⟨hfixed, List.mem_map_of_mem hm⟩
  have honce := List.nodup_iff_count.mp hnodup m.1
  omega

end Record

/-- What a logger writes of a call whose fields are an object is the compact text of one object, and
is read back as such if all numbers are whole and of 64 bits. A name occurs in it twice exactly if it
is that of a fixed member and a field bears it. To a reader who keeps the last member of a name the
fields come before the fixed members, so it is shown the label and the message of the call exactly if
no field says otherwise under their names. -/
theorem write_shadows (l : Logger) (s : Severity) (label message : String) (fields : Json)
    (o : Outside) (ms : List (String × Json)) (hms : fields.members? = some ms) :
    ∃ members : List (String × Json),
      (l.enabled s = true → l.write s label message fields o =
        (o.write ((Json.record members).compact ++ "\n") l.output).mapError
          fun fault => .write fault.message) ∧
      (fields.Integral →
        Json.read? none ((Json.record members).compact ++ "\n") = some (.record members)) ∧
      (∀ name, 1 < (members.map (·.1)).count name ↔
        name ∈ ["time", "level", "msg"] ∧ name ∈ ms.map (·.1)) ∧
      ((members.map (·.1)).Nodup ↔ ∀ m ∈ ms, m.1 ∉ ["time", "level", "msg"]) ∧
      (∀ name, (Json.record members).get? name = ((fields.get? name).map Json.plain).or
        ((Json.record [("time", .text o.time), ("level", .text label),
          ("msg", .text message)]).get? name)) ∧
      ((Json.record members).get? "level" = some (.text label) ↔
        ∀ v, fields.get? "level" = some v → v = .text label) ∧
      ((Json.record members).get? "msg" = some (.text message) ↔
        ∀ v, fields.get? "msg" = some v → v = .text message) := by
  let r : Record := ⟨o.time, label, message, fields⟩
  have hjson : r.toJson = .record (r.fixed ++ Record.others ms) := Record.toJson_of_members hms
  have hline : r.line = (Json.record (r.fixed ++ Record.others ms)).compact ++ "\n" := by
    rw [Record.line, hjson]
  have hrecord : fields = .record ms := by
    cases fields <;> cases hms
    rfl
  refine ⟨r.fixed ++ Record.others ms, ?_, ?_, Record.twice_iff r ms, Record.nodup_names_iff r ms,
    ?_, ?_, ?_⟩
  · intro henabled
    rw [write, if_pos henabled, ← hline]
    cases o.write r.line l.output <;> rfl
  · intro hintegral
    rw [← hline, Record.read?_line (Record.integral_toJson (r := r) hms hintegral), hjson]
  · intro name
    rw [hrecord]
    exact Record.get?_members r ms name
  · rw [hrecord]
    exact Record.get?_eq_text_iff (by rfl)
  · rw [hrecord]
    exact Record.get?_eq_text_iff (by rfl)

private def forged : List (String × Json) := [("level", .text "error"), ("user", .text "eve")]

/-- In the line of such a call `level` occurs twice, and its reader is shown the level of the
fields. -/
theorem write_shadows_forged :
    let l : Logger := ⟨.upTo .info, .stdout⟩
    let o : Outside := { files := .start ["work"], time := "2024-05-01 10:00:00" }
    (Json.record forged).members? = some forged ∧
      ∃ members, l.write .info "info" "ready" (.record forged) o =
          .ok { o with stdout := o.stdout ++ ((Json.record members).compact ++ "\n") } ∧
        Json.read? none ((Json.record members).compact ++ "\n") = some (.record members) ∧
        ¬(members.map (·.1)).Nodup ∧
        (Json.record members).get? "level" = some (.text "error") ∧
        (Json.record members).get? "msg" = some (.text "ready") := by
  intro l o
  obtain ⟨members, hwrite, hread, -, hnodup, hget, hlevel, hmsg⟩ :=
    write_shadows l .info "info" "ready" (.record forged) o forged rfl
  have hintegral : (Json.record forged).Integral := by
    simp [forged, Json.Integral, Json.IntegralMembers]
  refine ⟨rfl, members, hwrite (by decide), hread hintegral, ?_, ?_, ?_⟩
  · rw [hnodup]
    decide
  · rw [hget]
    rfl
  · exact hmsg.mpr (by simp [forged, Json.get?, Json.members?])

end Logger

end LiveConfig
