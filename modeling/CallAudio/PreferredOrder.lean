import CallAudio.Device
import CallAudio.RoutingError

/-! # Preferred orders

A preferred order ranks the four kinds. It is written as a list of some kinds; the listed ones
come first, the others follow in their usual order, and a kind listed twice is an error.
Devices are arranged kind by kind, and devices of one kind keep the order they came in.
-/

namespace CallAudio

structure PreferredOrder where
  kinds : List Kind
  nodup : kinds.Nodup
  complete : ∀ kind, kind ∈ kinds

namespace PreferredOrder

def firstRepeat? (seen : List Kind) : List Kind → Option Kind
  | [] => none
  | kind :: rest => if kind ∈ seen then some kind else firstRepeat? (kind :: seen) rest

theorem firstRepeat?_eq_none_iff {seen kinds : List Kind} :
    firstRepeat? seen kinds = none ↔ kinds.Nodup ∧ ∀ kind ∈ kinds, kind ∉ seen := by
  induction kinds generalizing seen with
  | nil => simp [firstRepeat?]
  | cons kind rest ih =>
    by_cases h : kind ∈ seen
    · simp [firstRepeat?, h]
    · simp only [firstRepeat?, h, if_false, ih, List.nodup_cons, List.mem_cons, not_or,
        forall_eq_or_imp, not_false_eq_true, true_and]
      constructor
      · rintro ⟨nodup, fresh⟩
        exact ⟨⟨fun mem => (fresh kind mem).1 rfl, nodup⟩, fun k mem => (fresh k mem).2⟩
      · rintro ⟨⟨new, nodup⟩, fresh⟩
        exact ⟨nodup, fun k mem => ⟨fun eq => new (eq ▸ mem), fresh k mem⟩⟩

def remaining (listed : List Kind) : List Kind := Kind.all.filter (· ∉ listed)

theorem nodup_append_remaining {listed : List Kind} (h : listed.Nodup) :
    (listed ++ remaining listed).Nodup := by
  refine List.nodup_append.2 ⟨h, Kind.nodup_all.filter _, ?_⟩
  rintro kind mem _ other rfl
  simp [remaining, mem] at other

theorem mem_append_remaining (listed : List Kind) (kind : Kind) :
    kind ∈ listed ++ remaining listed := by
  by_cases h : kind ∈ listed <;> simp [remaining, h, Kind.mem_all]

def ofList (listed : List Kind) : Except RoutingError PreferredOrder :=
  match h : firstRepeat? [] listed with
  | some kind => .error (.duplicatePreferred kind)
  | none => .ok
    { kinds := listed ++ remaining listed
      nodup := nodup_append_remaining (firstRepeat?_eq_none_iff.1 h).1
      complete := mem_append_remaining listed }

def usual : PreferredOrder := ⟨Kind.all, Kind.nodup_all, Kind.mem_all⟩

/-- The position of a kind; lower is preferred. -/
def rank (order : PreferredOrder) (kind : Kind) : Nat := order.kinds.idxOf kind

def text (order : PreferredOrder) : String := " > ".intercalate (order.kinds.map Kind.name)

def arrange (order : PreferredOrder) (devices : List Device) : List Device :=
  order.kinds.flatMap fun kind => (devices.filter (·.kind = kind)).eraseDups

end PreferredOrder

/-- The first device that is not excluded; if all are, the first device. -/
def bestDevice? (excluded : Device → Bool) (devices : List Device) : Option Device :=
  (devices.find? (!excluded ·)).or devices.head?

end CallAudio
