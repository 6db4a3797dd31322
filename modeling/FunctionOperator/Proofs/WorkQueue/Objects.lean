import FunctionOperator.Proofs.Cache.Store
import FunctionOperator.Proofs.WorkQueue.SingleFlight
import FunctionOperator.Sync.Handler

/-!
# One worker for an object

Whether one worker for a key is one worker for an object. Read `Key.Faithful` and
`StaffedQueue.OneWorkerEach` first: `keys_name_objects` proves both. Keys and what they name belong
together one to one, except that a key is also accepted with a slash in front of it, and then names
the same. Where all objects have a namespace, such a key finds nothing; `shop_held_twice` is a run
in which two workers sync the same object, which has none.
-/

namespace FunctionOperator

/-- How keys and what they name belong together. -/
structure Key.Faithful : Prop where
  /-- The key of a namespace, possibly empty, and a name is split into both. -/
  split_made : ∀ space name, Clean space name → split (of (some space) name) = .ok (space, name)
  /-- An accepted key is made from what it names exactly if it has no slash in front. -/
  made_iff : ∀ key space name, split key = .ok (space, name) →
    (of (some space) name = key ↔ ¬ Slashed key)
  /-- With a slash in front a key names what it names without. -/
  slashed : ∀ key parts, split key = .ok parts → Slashed key →
    ∃ rest, key = "/" ++ rest ∧ split rest = .ok parts
  /-- Different keys that name the same differ by a slash in front. -/
  distinct : ∀ first second parts, split first = .ok parts → split second = .ok parts →
    first = second ∨ first = "/" ++ second ∨ second = "/" ++ first

/-- Keys and what they name belong together, but for the slash in front. -/
theorem Key.faithful : Key.Faithful where
  split_made _ _ := split_clean
  made_iff _ _ _ := of_split_iff
  slashed key parts h hslashed := by
    obtain ⟨space, name⟩ := parts
    obtain ⟨rfl, rfl⟩ := slashed_split h hslashed
    exact ⟨name, rfl, split_eq_ok_iff.2 ⟨(split_eq_ok_iff.1 h).1, .inr ⟨rfl, rfl⟩⟩⟩
  distinct first second parts hfirst hsecond := by
    obtain ⟨space, name⟩ := parts
    obtain ⟨-, rfl | ⟨rfl, rfl⟩⟩ := split_eq_ok_iff.1 hfirst
    · obtain ⟨-, rfl | ⟨rfl, rfl⟩⟩ := split_eq_ok_iff.1 hsecond
      · exact .inl rfl
      · exact .inr (.inl (by simp))
    · obtain ⟨-, rfl | ⟨-, rfl⟩⟩ := split_eq_ok_iff.1 hsecond
      · exact .inr (.inr (by simp))
      · exact .inl rfl

/-- A sync that finds an object was called for by the key of what was found. -/
theorem sync_key_found {σ : Type} {primaries : Store (Primary σ)} {converge : Primary σ → Sync}
    {key : String} {primary : Primary σ} {sync : Sync} (hspaced : primaries.Namespaced)
    (h : syncKey primaries converge key = .ok (some (primary, sync))) :
    ∃ id, primary.metadata.objectId? = some id ∧ key = Key.of id.space id.name := by
  cases hsplit : Key.split key with
  | error failure =>
    rw [syncKey, hsplit] at h
    cases h
  | ok parts =>
    obtain ⟨space, name⟩ := parts
    rw [syncKey, hsplit] at h
    obtain ⟨found, hget, hfound⟩ := Option.map_eq_some_iff.1 (Except.ok.inj h)
    obtain rfl : found = primary := congrArg Prod.fst hfound
    have hspace : space ≠ "" := by
      rintro rfl
      rw [hspaced.get_empty] at hget
      cases hget
    rw [hspaced.get_eq hspace] at hget
    exact ⟨_, (hspaced _ _ hget).1, (Key.of_split hsplit hspace).symm⟩

namespace StaffedQueue

/-- What different workers of a queue may hold. -/
structure OneWorkerEach (state : StaffedQueue) : Prop where
  /-- Two hands whose keys name the same are one, or their keys differ by a slash in front. -/
  named : ∀ first second parts, first ∈ state.held → second ∈ state.held →
    Key.split first.2 = .ok parts → Key.split second.2 = .ok parts →
    first = second ∨ first.2 = "/" ++ second.2 ∨ second.2 = "/" ++ first.2
  /-- Where all objects have a namespace, two hands whose syncs find the same object are one. -/
  found : ∀ {σ : Type} (primaries : Store (Primary σ)) (converge : Primary σ → Sync),
    primaries.Namespaced → ∀ first second found other sync later,
    first ∈ state.held → second ∈ state.held →
    syncKey primaries converge first.2 = .ok (some (found, sync)) →
    syncKey primaries converge second.2 = .ok (some (other, later)) →
    found.metadata.objectId? = other.metadata.objectId? → first = second

/-- A key is in one hand. -/
theorem Run.held_once {backoff : Backoff} {events : List QueueEvent} {state : StaffedQueue}
    (h : Run backoff events state) {first second : Nat × String} (hfirst : first ∈ state.held)
    (hsecond : second ∈ state.held) (hkey : first.2 = second.2) : first = second :=
  List.inj_on_of_nodup_map h.sound.held_nodup hfirst hsecond hkey

/-- In every state of every run one worker for a key is one worker for what the key names. -/
theorem Run.one_worker_each {backoff : Backoff} {events : List QueueEvent} {state : StaffedQueue}
    (h : Run backoff events state) : state.OneWorkerEach where
  named first second parts hfirst hsecond hparts hsame :=
    (Key.faithful.distinct _ _ parts hparts hsame).imp_left (h.held_once hfirst hsecond)
  found primaries converge hspaced first second found other sync later hfirst hsecond hfound hother
      hid := by
    obtain ⟨id, hown, hkey⟩ := sync_key_found hspaced hfound
    obtain ⟨id', hown', hkey'⟩ := sync_key_found hspaced hother
    obtain rfl : id = id' := Option.some.inj (hown.symm.trans (hid.trans hown'))
    exact h.held_once hfirst hsecond (hkey.trans hkey'.symm)

end StaffedQueue

/-- Keys and what they name belong together one to one, but for a slash in front of a key; and in
every state of every run, whatever workers hold at once names different things, but for such a
slash, and finds different objects where all objects have a namespace. -/
theorem keys_name_objects {backoff : Backoff} {events : List QueueEvent} {state : StaffedQueue}
    (h : StaffedQueue.Run backoff events state) : Key.Faithful ∧ state.OneWorkerEach :=
  ⟨Key.faithful, h.one_worker_each⟩

/-- Two workers hold the keys of two objects of one namespace. -/
theorem keys_name_objects_busy : ∃ state, StaffedQueue.Run .standard
      [.added "web/shop", .taken "web/shop", .added "web/cart", .taken "web/cart"] state ∧
    state.held = [(1, "web/cart"), (0, "web/shop")] ∧ Key.Faithful ∧ state.OneWorkerEach := by
  obtain ⟨state, hrun, hheld⟩ : ∃ state, StaffedQueue.Run .standard
      [.added "web/shop", .taken "web/shop", .added "web/cart", .taken "web/cart"] state ∧
      state.held = [(1, "web/cart"), (0, "web/shop")] :=
    ⟨_, .step (.take 1) (.step (.add "web/cart") (.step (.take 0) (.step (.add "web/shop") .start
      rfl) rfl) rfl) rfl, rfl⟩
  exact ⟨state, hrun, hheld, keys_name_objects hrun⟩

/-- A function ingress without a namespace. -/
def unspacedShop : FunctionIngress where
  metadata := { name := some "shop" }
  spec := {}

/-- The store of the function ingress without a namespace. -/
def unspacedStore : Store FunctionIngress := Store.empty.insert ⟨none, "shop"⟩ unspacedShop

/-- Two workers hold two keys that name the same, and the syncs of both find the same object. The
key with the slash in front is not the one that is made of what it names. -/
theorem shop_held_twice :
    (∃ state, StaffedQueue.Run .standard
        [.added "shop", .taken "shop", .added "/shop", .taken "/shop"] state ∧
      state.held = [(1, "/shop"), (0, "shop")]) ∧
    Key.split "/shop" = .ok ("", "shop") ∧ Key.split "shop" = .ok ("", "shop") ∧
    Key.of (some "") "shop" = "shop" ∧
    ∀ converge, syncKey unspacedStore converge "/shop" = syncKey unspacedStore converge "shop" ∧
      syncKey unspacedStore converge "shop" = .ok (some (unspacedShop, converge unspacedShop)) := by
  refine ⟨⟨_, .step (.take 1) (.step (.add "/shop") (.step (.take 0) (.step (.add "shop") .start rfl)
    rfl) rfl) rfl, rfl⟩, ?_, ?_, rfl, fun converge => ⟨?_, ?_⟩⟩
  all_goals rfl

end FunctionOperator
