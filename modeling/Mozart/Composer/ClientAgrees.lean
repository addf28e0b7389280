import Mozart.Composer.Client

/-!
# Client and adapter agree on the composition types

1. **`Agree`** is the invariant of a conversation: the client's table is the adapter's table of
   requests, and whatever the client has fetched turns it into the validated types.
2. **`Fetches`** describes the two calls that fetch each list, right after a validation.
3. **`client_agrees`** puts both together for every run.
-/

namespace Mozart.Composer

open MapLoop Transition Adapter

variable {a a' : Adapter} {hook : Hook}

/-! ## The invariant -/

structure Agree (c : Conversation) : Prop where
  rep : RepInv c.adapter
  diff : Diff c.adapter
  table : ∀ l, c.client.table.lookup l = (c.adapter.types l).map Prod.fst
  count : ∀ n, c.client.count = some n → c.adapter.mChangedTypes.keys.card ≤ n
  fetched : ∀ pairs, c.client.fetched = some pairs → Patches c.adapter pairs

variable {c c' : Conversation} {displayId : Nat}

theorem Agree.of_types (h : Agree c) (hrep : RepInv a')
    (htypes : ∀ l, a'.types l = c.adapter.types l)
    (hchanged : a'.mChangedTypes = c.adapter.mChangedTypes)
    (hstate : a'.mState ≠ .MODIFIED → c.adapter.mState ≠ .MODIFIED) : Agree ⟨a', c.client⟩ where
  rep := hrep
  diff := h.diff.of_types htypes hchanged hstate
  table l := by
    rw [htypes]
    exact h.table l
  count n hn := by
    show a'.mChangedTypes.keys.card ≤ n
    rw [hchanged]
    exact h.count n hn
  fetched pairs hpairs := (h.fetched pairs hpairs).of_types htypes hstate

theorem Agree.addLayer (h : Agree c) {after : State}
    (hafter : c.adapter.mState = .MODIFIED → after = .MODIFIED)
    (hrep : RepInv (c.adapter.addLayer.1.setState after)) :
    Agree ⟨c.adapter.addLayer.1.setState after, { c.client with
      table := emplace c.adapter.addLayer.2 HWC2_COMPOSITION_CLIENT c.client.table }⟩ where
  rep := hrep
  diff := h.diff.addLayer h.rep hafter
  table l := by
    show (emplace c.adapter.addLayer.2 _ c.client.table).lookup l =
      (c.adapter.addLayer.1.types l).map _
    rw [lookup_emplace, types_addLayer]
    split_ifs with hl
    · rw [← hl, h.table]
      cases c.adapter.types l <;> rfl
    · exact h.table l
  count := h.count
  fetched pairs hpairs := (h.fetched pairs hpairs).addLayer hafter

theorem Agree.removeLayer (h : Agree c) {layer : Nat} (hlive : layer ∈ c.adapter.mLayers)
    {after : State} (hafter : c.adapter.mState = .MODIFIED → after = .MODIFIED)
    (hrep : RepInv ((c.adapter.removeLayer layer).1.setState after)) :
    Agree ⟨(c.adapter.removeLayer layer).1.setState after, { c.client with
      table := c.client.table.erase layer }⟩ where
  rep := hrep
  diff := h.diff.removeLayer hlive hafter
  table l := by
    show (c.client.table.erase layer).lookup l = ((c.adapter.removeLayer layer).1.types l).map _
    rw [types_removeLayer hlive]
    split_ifs with hl
    · rw [hl, Finmap.lookup_erase]
      rfl
    · rw [Finmap.lookup_erase_ne hl, h.table]
  count n hn := by
    show (c.adapter.removeLayer layer).1.mChangedTypes.keys.card ≤ n
    rw [removeLayer_of_mem hlive]
    show (c.adapter.mChangedTypes.erase layer).keys.card ≤ n
    rw [Finmap.keys_erase]
    exact Finset.card_erase_le.trans (h.count n hn)
  fetched pairs hpairs := (h.fetched pairs hpairs).removeLayer hlive hafter

/-- A type the client sets is a request; what it has fetched is about another state. -/
theorem Agree.setLayerCompositionType (h : Agree c) {layer : Nat} {type : Int}
    (hlive : layer ∈ c.adapter.mLayerStates)
    (hadapter : a' = { c.adapter with
      mLayerStates :=
        modify layer (fun state => { state with requestedType := type }) c.adapter.mLayerStates
      mState := .MODIFIED }) (hrep : RepInv a') :
    Agree ⟨a', { c.client with table := c.client.table.insert layer type }⟩ := by
  subst hadapter
  refine ⟨hrep, ⟨h.diff.client, fun hmod => absurd rfl hmod⟩, fun l => ?_, h.count,
    fun pairs hpairs => ⟨(h.fetched pairs hpairs).client, fun hmod => absurd rfl hmod⟩⟩
  show (c.client.table.insert layer type).lookup l =
    (((modify layer _ c.adapter.mLayerStates).lookup l).map _).map Prod.fst
  rw [lookup_modify]
  obtain ⟨state, hstate⟩ := Finmap.mem_iff.mp hlive
  split_ifs with hl
  · rw [hl, Finmap.lookup_insert, hstate]
    rfl
  · rw [Finmap.lookup_insert_of_ne _ hl, h.table]
    rfl

/-- A validation makes a new diff, of which the client has fetched nothing unless it is empty. -/
theorem Agree.validateLayers (h : Agree c) (overlayProperty : Bool) {order : List Nat}
    (horder : IsOrder order c.adapter.mLayerStates) {state : State}
    (hrep : RepInv ((c.adapter.validateLayers overlayProperty order).setState state)) :
    Agree ⟨(c.adapter.validateLayers overlayProperty order).setState state, { c.client with
      count := none
      fetched := if (c.adapter.validateLayers overlayProperty order).mChangedTypes.keys.card = 0
        then some [] else none }⟩ where
  rep := hrep
  diff := diff_validateLayers c.adapter overlayProperty horder state
  table l := by
    show c.client.table.lookup l =
      ((c.adapter.validateLayers overlayProperty order).types l).map Prod.fst
    rw [types_validateLayers c.adapter overlayProperty horder, h.table, Option.map_map]
    rfl
  count n hn := by cases hn
  fetched pairs hpairs := by
    change (if _ then some [] else none) = some pairs at hpairs
    split_ifs at hpairs with hnone
    obtain rfl := Option.some.inj hpairs
    exact (diff_validateLayers c.adapter overlayProperty horder state).patches
      (isOrder_nil (Finset.card_eq_zero.mp hnone))

/-- An acceptance turns requests into validated types on both sides. -/
theorem Agree.acceptChanges (h : Agree c) {order : List Nat}
    (horder : IsOrder order c.adapter.mLayerStates) (hstate : c.adapter.mState ≠ .MODIFIED)
    (hfetched : c.client.fetched.isSome = true) {state : State}
    (hrep : RepInv ((c.adapter.acceptChanges order).setState state)) :
    Agree ⟨(c.adapter.acceptChanges order).setState state, { c.client with
      table := applyPairs (c.client.fetched.getD []) c.client.table }⟩ where
  rep := hrep
  diff := diff_acceptChanges horder state
  table l := by
    obtain ⟨pairs, hpairs⟩ := Option.isSome_iff_exists.mp hfetched
    show (applyPairs (c.client.fetched.getD []) c.client.table).lookup l =
      ((c.adapter.acceptChanges order).types l).map Prod.fst
    rw [hpairs, Option.getD_some, (h.fetched pairs hpairs).lookup_applyPairs hstate h.table,
      types_acceptChanges horder, Option.map_map]
    rfl
  count n _ := Nat.zero_le n
  fetched pairs hpairs := (h.fetched pairs hpairs).acceptChanges horder hstate state

/-- One hook, and what the client makes of its reply. -/
theorem Agree.observe (h : Agree c) (hpossible : hook.Possible c.adapter)
    (hok : hook.Allowed c) {r : Adapter × Reply} (hmove : Hook.Move c.adapter hook r)
    (hrep : RepInv r.1) : Agree ⟨r.1, c.client.observe hook r.2⟩ := by
  cases hmove with
  | refused herror =>
    rw [c.client.observe_refused hook herror]
    exact h
  | created after => exact h.addLayer hok hrep
  | destroyed after hlive => exact h.removeLayer hlive hok hrep
  | @buffer layer buffer hlive =>
    exact h.of_types hrep (map_types_modify layer (fun state => { state with buffer := buffer })
      (fun _ => rfl) (fun _ => rfl) c.adapter.mLayerStates) rfl id
  | typed type hlive => exact h.setLayerCompositionType hlive rfl hrep
  | @setter _ layer f hhook hlive _ hrequested hvalidated =>
    rw [c.client.observe_plain hhook]
    exact h.of_types hrep (map_types_modify layer f hrequested hvalidated c.adapter.mLayerStates)
      rfl fun hmod => absurd rfl hmod
  | state after => exact h.of_types hrep (fun _ => rfl) rfl (mt hok)
  | target target => exact h.of_types hrep (fun _ => rfl) rfl id
  | validated overlayProperty order => exact h.validateLayers overlayProperty hpossible hrep
  -- the client keeps the count it is told
  | typesCount hstate =>
    exact ⟨hrep, h.diff, h.table, fun n hn => (Option.some.inj hn).le, h.fetched⟩
  | @types capacity order hstate =>
    refine ⟨hrep, h.diff, h.table, h.count, fun pairs hpairs => ?_⟩
    -- it asks for no fewer than there are, so the list is not cut
    rw [← Option.some.inj hpairs, take_isOrder hpossible (h.count capacity hok)]
    exact h.diff.patches hpossible
  | requests => exact h.of_types hrep (fun _ => rfl) rfl id
  | accepted order hstate => exact h.acceptChanges hpossible hstate hok hrep
  | posted env =>
    have hrep : RepInv (c.adapter.postBuffer env).1 := hrep
    show Agree ⟨(c.adapter.postBuffer env).1, c.client⟩
    rcases postBuffer_cases c.adapter env with heq | heq
    · rw [heq]
      exact h
    · rw [heq] at hrep ⊢
      exact h.of_types hrep (fun _ => rfl) rfl fun hmod => absurd rfl hmod

theorem conversation_step {call : HookCall}
    (h : (conversation displayId).step c call = some c') :
    c' = c ∨ call.hook.Possible c.adapter ∧ c' = ⟨(call.hook.perform c.adapter).1,
      c.client.observe call.hook (call.hook.perform c.adapter).2⟩ := by
  change (if _ then some _ else none) = some c' at h
  split_ifs at h with hpossible
  obtain rfl := Option.some.inj h
  by_cases hdisplay : displayId = call.display
  · right
    refine ⟨hpossible hdisplay, ?_⟩
    rw [HookCall.perform, if_neg (not_not.mpr hdisplay)]
  · left
    rw [HookCall.perform, if_pos hdisplay]
    show (⟨c.adapter, c.client.observe call.hook (.error .BAD_DISPLAY)⟩ : Conversation) = c
    rw [c.client.observe_refused call.hook (by decide)]

theorem agree_of_run {calls : List HookCall} (h : Run (conversation displayId) allowed calls c) :
    Agree c := by
  refine h.invariant (I := fun _ c => Agree c) ?_ ?_
  · rintro c ⟨info, rfl⟩
    exact {
      rep := repInv_new info
      diff := ⟨fun l type hl => by simp at hl, fun hmod => absurd rfl hmod⟩
      table := fun l => rfl
      count := fun n hn => by cases hn
      fetched := fun pairs hpairs => by cases hpairs }
  · rintro calls c call c' hagree hok hstep
    rcases conversation_step hstep with rfl | ⟨hpossible, rfl⟩
    · exact hagree
    · exact hagree.observe hpossible hok (Hook.move hagree.rep call.hook)
        (Hook.repInv_perform hagree.rep hpossible)

/-! ## What the client fetches -/

/-- What a client with this table gets from a validated adapter: first the lengths, with null
arrays, then the two lists. -/
structure Fetches (a : Adapter) (table : Finmap fun _ : Nat => Int)
    (numTypes numRequests : Nat) : Prop where
  types_count : ∀ order,
    a.getChangedCompositionTypesHook none order = (a, .changedTypes numTypes [])
  types : ∀ order, IsOrder order a.mChangedTypes → ∃ pairs,
    a.getChangedCompositionTypesHook (some numTypes) order = (a, .changedTypes numTypes pairs) ∧
    pairs.length = numTypes ∧ (pairs.map Prod.fst).Nodup ∧
    (∀ l, l ∈ pairs.map Prod.fst ↔ ∃ type, a.types l = some type ∧ type.1 ≠ type.2) ∧
    ∀ l ∈ a.mLayers, (applyPairs pairs table).lookup l = a.validatedType l
  requests_count : ∀ order, a.getDisplayRequestsHook none order = (a, .requests 0 numRequests [])
  requests : ∀ order, order.Nodup → order.toFinset = a.mClearClientTargetLayers → ∃ pairs,
    a.getDisplayRequestsHook (some numRequests) order = (a, .requests 0 numRequests pairs) ∧
    pairs.length = numRequests ∧ (pairs.map Prod.fst).Nodup ∧
    ∀ l, l ∈ pairs.map Prod.fst ↔
      a.validatedType l = some HWC2_COMPOSITION_DEVICE ∧ ∃ l' ∈ a.mLayers, l' ≠ l

theorem Diff.mem_changedTypes (h : Diff a) (hrep : RepInv a) (hmod : a.mState ≠ .MODIFIED)
    (l : Nat) : l ∈ a.mChangedTypes ↔ ∃ type, a.types l = some type ∧ type.1 ≠ type.2 := by
  rw [Finmap.mem_iff]
  constructor
  · rintro ⟨changed, hchanged⟩
    obtain ⟨state, hstate⟩ := Finmap.mem_iff.mp
      (hrep.mem_layers_iff.mp (hrep.changed l changed hchanged).1)
    have htype : a.types l = some (state.requestedType, state.validatedType) := by
      rw [types, hstate]
      rfl
    have hlookup := h.changed hmod l _ htype
    rw [hchanged] at hlookup
    split_ifs at hlookup with hne
    exact ⟨_, htype, hne⟩
  · rintro ⟨type, htype, hne⟩
    exact ⟨type.2, by rw [h.changed hmod l type htype, if_pos hne]⟩

theorem fetches_of_diff (hrep : RepInv a) (hdiff : Diff a) (hmod : a.mState ≠ .MODIFIED)
    {table : Finmap fun _ : Nat => Int} (htable : ∀ l, table.lookup l = (a.types l).map Prod.fst)
    (hclear : ∀ l, l ∈ a.mClearClientTargetLayers ↔
      a.validatedType l = some HWC2_COMPOSITION_DEVICE ∧ ∃ l' ∈ a.mLayers, l' ≠ l) :
    Fetches a table a.outNums.1 a.outNums.2 where
  types_count order := if_neg hmod
  types order horder := by
    refine ⟨entriesAt order a.mChangedTypes, ?_, ?_, ?_, fun l => ?_, fun l _ => ?_⟩
    · rw [getChangedCompositionTypesHook, if_neg hmod]
      show (a, Reply.changedTypes (min a.mChangedTypes.keys.card a.mChangedTypes.keys.card)
        (entriesAt (order.take (min a.mChangedTypes.keys.card a.mChangedTypes.keys.card))
          a.mChangedTypes)) = _
      rw [take_isOrder horder (le_refl _), min_self]
      rfl
    · rw [← List.length_map Prod.fst, horder.map_fst_entriesAt]
      exact horder.length_eq
    · rw [horder.map_fst_entriesAt]
      exact horder.1
    · rw [horder.map_fst_entriesAt, horder.mem_iff]
      exact hdiff.mem_changedTypes hrep hmod l
    · rw [(hdiff.patches horder).lookup_applyPairs hmod htable, types, Option.map_map]
      rfl
  requests_count order := if_neg hmod
  requests order hnodup hset := by
    have hlength : order.length = a.mClearClientTargetLayers.card := by
      rw [← hset, List.toFinset_card_of_nodup hnodup]
    -- every layer of the set comes with the same request
    have hkeys : (order.map fun l => (l, HWC2_LAYER_REQUEST_CLEAR_CLIENT_TARGET)).map Prod.fst =
        order := by
      rw [List.map_map]
      exact List.map_id order
    refine ⟨order.map fun l => (l, HWC2_LAYER_REQUEST_CLEAR_CLIENT_TARGET), ?_, ?_, ?_,
      fun l => ?_⟩
    · rw [getDisplayRequestsHook, if_neg hmod]
      show (a, Reply.requests 0 (min a.mClearClientTargetLayers.card
        a.mClearClientTargetLayers.card) ((order.take (min a.mClearClientTargetLayers.card
        a.mClearClientTargetLayers.card)).map _)) =
        (a, Reply.requests 0 a.mClearClientTargetLayers.card _)
      rw [min_self, ← hlength, List.take_length]
    · rw [List.length_map]
      exact hlength
    · rw [hkeys]
      exact hnodup
    · rw [hkeys, ← hclear, ← hset, List.mem_toFinset]

/-- **Client and adapter agree.** After every hook of every run, and so after each acceptance,
the client's table holds the type the adapter has as requested for each layer. Right after a
validation both fetched lists have the length it reported and name every affected layer once,
and with the changed types applied the table holds the validated types. -/
theorem client_agrees {calls : List HookCall}
    (h : Run (conversation displayId) allowed calls c) :
    (∀ l, c.client.table.lookup l =
      (c.adapter.mLayerStates.lookup l).map LayerState.requestedType) ∧
    ∀ (overlayProperty : Bool) (order : List Nat), IsOrder order c.adapter.mLayerStates →
      ∃ (a' : Adapter) (error : Hwc2Error) (numTypes numRequests : Nat),
        c.adapter.validateDisplayHook overlayProperty order =
          (a', .counts error numTypes numRequests) ∧
        Fetches a' c.client.table numTypes numRequests := by
  have hagree := agree_of_run h
  refine ⟨fun l => ?_, fun overlayProperty order horder => ?_⟩
  · rw [hagree.table, types, Option.map_map]
    rfl
  · obtain ⟨state, error, hstate, heq⟩ :=
      validateDisplayHook_eq c.adapter overlayProperty order
    refine ⟨_, error, _, _, heq, ?_⟩
    have hrep := (hagree.rep.validateLayers overlayProperty horder).setState state
    refine fetches_of_diff hrep (diff_validateLayers c.adapter overlayProperty horder state) hstate
      (fun l => ?_) fun l => ?_
    · show c.client.table.lookup l =
        ((c.adapter.validateLayers overlayProperty order).types l).map Prod.fst
      rw [types_validateLayers c.adapter overlayProperty horder, hagree.table, Option.map_map]
      rfl
    · refine (mem_clearClientTargetLayers c.adapter overlayProperty horder).trans ?_
      refine and_congr_right fun _ => exists_congr fun l' => and_congr_left fun _ => ?_
      exact hagree.rep.mem_layers_iff.symm

/-- Two layers that ask for the overlay: one gets it, the other is drawn by the client. -/
def sampleConversation : List HookCall :=
  [.createLayer .MODIFIED, .createLayer .MODIFIED,
    .setLayerCompositionType 1 HWC2_COMPOSITION_DEVICE,
    .setLayerCompositionType 2 HWC2_COMPOSITION_DEVICE, .setLayerBuffer 1 (some sampleVideo),
    .setLayerDisplayFrame 1 ⟨0, 0, 64, 32⟩, .setLayerSourceCrop 1 ⟨0, 0, 64, 32⟩,
    .validateDisplay true [2, 1], .getChangedCompositionTypes none [2],
    .getChangedCompositionTypes (some 1) [2], .acceptDisplayChanges [1, 2]].map
      fun hook => ⟨0, hook⟩

theorem client_agrees_sample : ∃ c,
    exec ((conversation 0).restrict allowed) { adapter := { mFbInfo := ⟨64, 32⟩ } }
      sampleConversation = some c ∧
    c.client.fetched = some [(2, HWC2_COMPOSITION_CLIENT)] ∧
    ∀ l, c.client.table.lookup l =
      (c.adapter.mLayerStates.lookup l).map LayerState.requestedType := by
  have hfetched : (exec ((conversation 0).restrict allowed)
      { adapter := { mFbInfo := ⟨64, 32⟩ } } sampleConversation).map (fun c => c.client.fetched) =
      some (some [(2, HWC2_COMPOSITION_CLIENT)]) := by decide +kernel
  obtain ⟨c, hrun, hc⟩ := Option.map_eq_some_iff.mp hfetched
  have h : Run (conversation 0) allowed sampleConversation c := .of_exec_restrict ⟨_, rfl⟩ hrun
  exact ⟨c, hrun, hc, (client_agrees h).1⟩

end Mozart.Composer
