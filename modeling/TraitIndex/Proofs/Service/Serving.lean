import TraitIndex.Proofs.Outcome
import TraitIndex.Service.Serve

/-!
# Serving one request after the other

A service answers from the bundle it has loaded, and goes on doing so whatever
it is asked.  A path leads to one trait when its last part names it, unless that
part is taken by a fixed route.
-/

namespace TraitIndex

/-! ## Routes -/

namespace Text

theorem dropFinalLineFeed_append (part : List Char) {text : List Char}
    (h : text ≠ []) :
    dropFinalLineFeed (part ++ text) = part ++ dropFinalLineFeed text := by
  obtain ⟨before, last, rfl⟩ : ∃ before last, text = before ++ [last] :=
    ⟨_, _, (List.dropLast_concat_getLast h).symm⟩
  by_cases hfeed : last = '\n'
  · simp [dropFinalLineFeed, hfeed]
  · have hkept (text : List Char) : dropFinalLineFeed (text ++ [last]) =
        text ++ [last] := by
      simp only [dropFinalLineFeed, List.reverse_append, List.reverse_singleton,
        List.singleton_append]
      split
      · next heq => exact absurd (List.cons.inj heq).1 hfeed
      · rfl
    rw [← List.append_assoc, hkept, hkept, List.append_assoc]

end Text

namespace Service

namespace Route

/-- The name of the route that stands where the name of a trait could stand. -/
def reservedName : List Char := "stats".toList

def implementorsPrefix : List Char := "/api/implementors/".toList

/-- Whether a name is that of the fixed route, perhaps with a line feed at its
end. -/
def IsReserved (name : String) : Prop :=
  Text.dropFinalLineFeed name.toList = reservedName

instance (name : String) : Decidable (IsReserved name) :=
  inferInstanceAs (Decidable (_ = _))

/-- Whether a name can stand at the end of a path that leads to its trait. -/
def IsOpen (name : String) : Prop :=
  name ≠ "" ∧ '/' ∉ name.toList ∧ ¬IsReserved name

instance (name : String) : Decidable (IsOpen name) :=
  inferInstanceAs (Decidable (_ ∧ _ ∧ _))

def traitPath (name : String) : String :=
  "/api/implementors/" ++ name

theorem toList_traitPath (name : String) :
    (traitPath name).toList = implementorsPrefix ++ name.toList :=
  String.toList_append

theorem segment?_eq_some_iff {text : List Char} {name : String} :
    segment? text = some name ↔ text = name.toList ∧ name ≠ "" ∧
      '/' ∉ name.toList := by
  unfold segment?
  split
  · next h =>
      rw [Bool.or_eq_true, List.isEmpty_iff, List.contains_iff_mem] at h
      refine iff_of_false (by simp) ?_
      rintro ⟨rfl, hne, hslash⟩
      exact h.elim (fun hempty => hne (String.toList_eq_nil_iff.mp hempty))
        hslash
  · next h =>
      rw [Bool.or_eq_true, List.isEmpty_iff, List.contains_iff_mem, not_or] at h
      rw [Option.some.injEq]
      constructor
      · rintro rfl
        simpa using h
      · rintro ⟨rfl, -, -⟩
        exact String.ofList_toList

/-- Only one fixed route begins like the paths to traits. -/
theorem fixed?_traitPath {name : String} (h : name ≠ "") :
    fixed? (traitPath name).toList =
      if IsReserved name then some (.resource .stats) else none := by
  have hname : name.toList ≠ [] := mt String.toList_eq_nil_iff.mp h
  have hother (fixed : String) (hfixed : ¬implementorsPrefix <+: fixed.toList) :
      String.ofList (implementorsPrefix ++ Text.dropFinalLineFeed name.toList) ≠
        fixed := by
    rintro rfl
    rw [String.toList_ofList] at hfixed
    exact hfixed (List.prefix_append _ _)
  have hstats : "/api/implementors/stats" =
      String.ofList (implementorsPrefix ++ reservedName) := by
    decide +kernel
  rw [fixed?, toList_traitPath, Text.dropFinalLineFeed_append _ hname]
  split
  · next heq => exact absurd heq (hother _ (by decide +kernel))
  · next heq => exact absurd heq (hother _ (by decide +kernel))
  · next heq => exact absurd heq (hother _ (by decide +kernel))
  · next heq =>
      rw [hstats, String.ofList_inj, List.append_cancel_left_eq] at heq
      exact (if_pos (show IsReserved name from heq)).symm
  · next heq => exact absurd heq (hother _ (by decide +kernel))
  · next hne _ =>
      rw [hstats, String.ofList_inj, List.append_cancel_left_eq] at hne
      exact (if_neg (show ¬IsReserved name from hne)).symm

theorem implementors?_eq_some_iff {path : List Char} {name : String} :
    implementors? path = some (.resource (.implementors name)) ↔
      path = implementorsPrefix ++ name.toList ∧ name ≠ "" ∧
        '/' ∉ name.toList := by
  simp only [implementors?, Option.bind_eq_bind, Option.bind_eq_some_iff,
    Text.stripInitial?_eq_some_iff, segment?_eq_some_iff, Option.pure_def,
    Option.some.injEq, Route.resource.injEq, Resource.implementors.injEq]
  constructor
  · rintro ⟨rest, rfl, other, ⟨rfl, hname⟩, rfl⟩
    exact ⟨rfl, hname⟩
  · rintro ⟨rfl, hname⟩
    exact ⟨_, rfl, name, ⟨rfl, hname⟩, rfl⟩

theorem sidebar?_ne_implementors (path : List Char) (name : String) :
    sidebar? path ≠ some (.resource (.implementors name)) := by
  intro h
  simp only [sidebar?, Option.bind_eq_bind, Option.bind_eq_some_iff] at h
  obtain ⟨rest, -, h⟩ := h
  split at h
  · simp [Option.bind_eq_some_iff] at h
  · cases h

theorem fixed?_ne_implementors (path : List Char) (name : String) :
    fixed? path ≠ some (.resource (.implementors name)) := by
  unfold fixed?
  split <;> simp

theorem literal?_eq_implementors_iff {path : List Char} {name : String} :
    literal? path = some (.resource (.implementors name)) ↔
      path = (traitPath name).toList ∧ IsOpen name := by
  simp only [literal?, Option.or_eq_some_iff, fixed?_ne_implementors,
    sidebar?_ne_implementors, implementors?_eq_some_iff, false_or, and_false,
    or_false, ← toList_traitPath, IsOpen]
  constructor
  · rintro ⟨hfixed, rfl, hne, hslash⟩
    refine ⟨rfl, hne, hslash, fun hreserved => ?_⟩
    rw [fixed?_traitPath hne, if_pos hreserved] at hfixed
    cases hfixed
  · rintro ⟨rfl, hne, hslash, hreserved⟩
    refine ⟨?_, rfl, hne, hslash⟩
    rw [fixed?_traitPath hne, if_neg hreserved]

/-- The path of a trait leads to it if and only if its name is open: a slash
would end the name, and a fixed route goes before the one with a variable
part. -/
theorem ofPath?_traitPath_iff (name : String) :
    ofPath? (traitPath name) = some (.resource (.implementors name)) ↔
      IsOpen name := by
  rw [ofPath?, Option.or_eq_some_iff, literal?_eq_implementors_iff,
    literal?_eq_implementors_iff]
  constructor
  · rintro (⟨-, hopen⟩ | ⟨-, -, hopen⟩) <;> exact hopen
  · exact fun hopen => .inl ⟨rfl, hopen⟩

theorem ofPath?_traitPath_of_isReserved {name : String} (h : IsReserved name) :
    ofPath? (traitPath name) = some (.resource .stats) := by
  have hne : name ≠ "" := by
    rintro rfl
    exact absurd h (by decide)
  rw [ofPath?, literal?, fixed?_traitPath hne, if_pos h]
  rfl

end Route

/-! ## Replies -/

section

variable [Host]

def reply (service : Service) (request : Request) : Except Fault Reply :=
  (service.serve request).2.1

def after (service : Service) (requests : List Request) : Service :=
  requests.foldl (fun service request => (service.serve request).1) service

def answersFrom (service : Service) : Except Fault DocsIndex :=
  service.load.2.1

variable {service : Service} {index : DocsIndex}

theorem answersFrom_load (h : service.answersFrom = .ok index) :
    service.load.1.answersFrom = .ok index := by
  have hkept (kept : Service) (hindex : kept.index = some index) :
      kept.answersFrom = .ok index := by
    rw [answersFrom, load, hindex]
  cases hindex : service.index with
  | some loaded =>
      simp only [answersFrom, load, hindex] at h ⊢
      exact h
  | none =>
      cases hconfig : (Config.load service.files service.environment "").1 with
      | error fault =>
          simp only [answersFrom, load, hindex, hconfig] at h
          cases h
      | ok config =>
          simp only [answersFrom, load, hindex, hconfig] at h
          simp only [load, hindex, hconfig]
          exact hkept _ (toOption_eq_some_iff.mpr h)

/-- No request changes what a service answers from. -/
theorem answersFrom_serve (h : service.answersFrom = .ok index)
    (request : Request) :
    (service.serve request).1.answersFrom = .ok index := by
  unfold serve
  split
  · exact h
  · exact h
  · exact h
  · exact answersFrom_load h

theorem answersFrom_after (h : service.answersFrom = .ok index)
    (requests : List Request) :
    (service.after requests).answersFrom = .ok index := by
  induction requests generalizing service with
  | nil => exact h
  | cons request rest ih => exact ih (answersFrom_serve h request)

theorem reply_of_route {request : Request} {resource : Resource}
    (h : service.answersFrom = .ok index)
    (hroute : Route.ofPath? request.path = some (.resource resource)) :
    service.reply request = replyOf index request resource := by
  unfold reply serve
  rw [hroute]
  change service.answersFrom.bind _ = _
  rw [h]
  rfl

end

end Service

end TraitIndex
