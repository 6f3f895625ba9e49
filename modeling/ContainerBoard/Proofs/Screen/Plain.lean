import ContainerBoard.Screen.Model

/-!
# The texts of the screens

No line that the dashboard writes has a background, on whatever screen it stands.
-/

namespace ContainerBoard

/-- Neither the line nor a piece of it has a background. -/
def Line.IsPlain (line : Line) : Prop :=
  line.style.background = none ∧ ∀ span ∈ line.spans, span.style.background = none

def Body.IsPlain (body : Body) : Prop :=
  ∀ line ∈ body.lines, line.IsPlain

namespace Line

theorem IsPlain.background_patch {line : Line} (h : line.IsPlain) {span : Span}
    (hspan : span ∈ line.spans) : (line.style.patch span.style).background = none := by
  rw [Style.patch, h.1, h.2 span hspan]
  rfl

theorem isPlain_ofText (text : String) : (ofText text).IsPlain := by
  refine ⟨rfl, fun span hspan => ?_⟩
  obtain ⟨piece, -, rfl⟩ := List.mem_map.mp hspan
  rfl

theorem IsPlain.styled {line : Line} (h : line.IsPlain) {style : Style}
    (hstyle : style.background = none) : (line.styled style).IsPlain := by
  refine ⟨?_, h.2⟩
  change style.background.or line.style.background = none
  rw [hstyle, h.1]
  rfl

end Line

/-! ## Rows -/

namespace Row

theorem isPlain_field (name value : String) : (field name value).IsPlain := by
  simp [Line.IsPlain, field, Style.bold]

theorem isPlain_container (c : Container) : (container c).IsPlain := by
  simp [Line.IsPlain, container, Style.colored]

theorem isPlain_monitored (c : Container) : (monitored c).IsPlain :=
  (Line.isPlain_ofText _).styled rfl

theorem isPlain_image (i : Image) : (image i).IsPlain := by
  rw [image]
  split
  · exact (Line.isPlain_ofText _).styled rfl
  · exact Line.isPlain_ofText _

theorem isPlain_of_mem_imageDetails (i : ImageDetails) :
    ∀ line ∈ imageDetails i, line.IsPlain := by
  simp [imageDetails, isPlain_field]

theorem isPlain_of_mem_networkDetails (n : Network) :
    ∀ line ∈ networkDetails n, line.IsPlain := by
  rw [networkDetails, List.forall_mem_append]
  constructor
  · simp [isPlain_field]
  · intro line hline
    obtain ⟨a, -, rfl⟩ := List.mem_map.mp hline
    exact Line.isPlain_ofText _

theorem isPlain_of_mem_report (r : PruneReport) : ∀ line ∈ report r, line.IsPlain := by
  simp [report, isPlain_field]

theorem isPlain_of_mem_host (h : Host) : ∀ line ∈ host h, line.IsPlain := by
  simp [host, isPlain_field]

end Row

/-! ## Bodies -/

namespace Body

theorem isPlain_list {α : Type} {row : α → Line} (h : ∀ a, (row a).IsPlain) (as : List α) :
    (list (as.map row)).IsPlain := by
  intro line hline
  obtain ⟨a, -, rfl⟩ := List.mem_map.mp hline
  exact h a

theorem isPlain_note (message : String) : (note message).IsPlain := by
  intro line hline
  rw [List.mem_singleton.mp hline]
  exact (Line.isPlain_ofText message).styled rfl

theorem isPlain_textOr {α : Type} (message : String) {row : α → Line}
    (h : ∀ a, (row a).IsPlain) (as : List α) : (textOr message (as.map row)).IsPlain := by
  rw [textOr]
  split
  · exact isPlain_note message
  · exact isPlain_list h as

theorem isPlain_ofAnswer {α : Type} (answer : Except BoardError α) {body : α → Body}
    (h : ∀ value, (body value).IsPlain) : (ofAnswer answer body).IsPlain := by
  cases answer with
  | ok value => exact h value
  | error error => exact isPlain_note error.message

theorem isPlain_ofSnapshot {α : Type} (snapshot : Option α) (message : String)
    {body : α → Body} (h : ∀ value, (body value).IsPlain) :
    (ofSnapshot snapshot message body).IsPlain := by
  cases snapshot with
  | some value => exact h value
  | none => exact isPlain_note message

end Body

namespace Dashboard

variable {ρ α : Type}

theorem isPlain_fetchBody (b : Dashboard ρ) (request : Request α) {body : α → Body}
    (h : ∀ value, (body value).IsPlain) : (b.fetchBody request body).1.IsPlain :=
  Body.isPlain_ofAnswer _ h

theorem isPlain_networksBody (b : Dashboard ρ) : b.networksBody.1.IsPlain := by
  have hlist (ns : List Network) : (Body.list (ns.map Row.network)).IsPlain :=
    Body.isPlain_list (fun _ => Line.isPlain_ofText _) ns
  rw [networksBody]
  split
  · exact hlist _
  · exact Body.isPlain_ofSnapshot _ _ hlist

/-- Whatever the dashboard shows is written without a background. -/
theorem isPlain_body (b : Dashboard ρ) : b.body.1.IsPlain := by
  rw [body]
  cases b.navigation.view with
  | containers =>
      exact b.isPlain_fetchBody .containers fun cs => Body.isPlain_list Row.isPlain_container cs
  | images =>
      exact b.isPlain_fetchBody .images fun is => Body.isPlain_list Row.isPlain_image is
  | networks => exact b.isPlain_networksBody
  | inspectImage => exact Body.isPlain_ofSnapshot _ _ Row.isPlain_of_mem_imageDetails
  | inspectNetwork => exact Body.isPlain_ofSnapshot _ _ Row.isPlain_of_mem_networkDetails
  | imageHistory =>
      exact Body.isPlain_ofSnapshot _ _ fun layers =>
        Body.isPlain_textOr _ (fun _ => Line.isPlain_ofText _) layers
  | diskUsage => exact Body.isPlain_ofSnapshot _ _ Row.isPlain_of_mem_report
  | events => exact Body.isPlain_textOr _ (fun _ => Line.isPlain_ofText _) b.events.recent
  | help =>
      exact Body.isPlain_list (fun line : String × String => Row.isPlain_field line.1 line.2)
        Bindings.helpLines
  | info => exact Body.isPlain_ofSnapshot _ _ Row.isPlain_of_mem_host
  | monitor =>
      exact b.isPlain_fetchBody .containers fun cs =>
        Body.isPlain_textOr _ Row.isPlain_monitored (cs.filter Container.isRunning)
  | nodes =>
      exact b.isPlain_fetchBody .nodes fun ns =>
        Body.isPlain_list (fun _ => Line.isPlain_ofText _) ns
  | services =>
      exact b.isPlain_fetchBody .services fun ss =>
        Body.isPlain_list (fun _ => Line.isPlain_ofText _) ss
  | serviceTasks =>
      cases b.snapshots.service with
      | some id =>
          exact b.isPlain_fetchBody (.serviceTasks id) fun ts =>
            Body.isPlain_textOr _ (fun _ => Line.isPlain_ofText _) ts
      | none => exact Body.isPlain_note _
  | nodeTasks =>
      cases b.snapshots.node with
      | some id =>
          exact b.isPlain_fetchBody (.nodeTasks id) fun ts =>
            Body.isPlain_textOr _ (fun _ => Line.isPlain_ofText _) ts
      | none => exact Body.isPlain_note _

end Dashboard

end ContainerBoard
