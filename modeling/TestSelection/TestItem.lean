import TestSelection.Classifier
import TestSelection.Marker.Basic

/-!
# Test items

A test with the markers attached to it and the tags given to it, both in their order of arrival.
-/
namespace TestSelection

structure TestItem where
  name : String
  path : String
  markers : List Marker := []
  tags : List String := []
  deriving DecidableEq

namespace TestItem

/-- Attaches a marker behind those attached before. -/
def addMarker (item : TestItem) (m : Marker) : TestItem :=
  { item with markers := item.markers ++ [m] }

/-- Gives a tag; one that the item has already changes nothing. -/
def addTag (item : TestItem) (tag : String) : TestItem :=
  { item with tags := addDistinct item.tags tag }

/-- Gives the tags of the item's path. -/
def tagBy (item : TestItem) (c : Classifier) : TestItem :=
  (c.classify item.path).foldl addTag item

def hasMarker (item : TestItem) (name : String) : Bool :=
  item.markers.any fun m => m.name == name

def hasTag (item : TestItem) (tag : String) : Bool :=
  tag ∈ item.tags

end TestItem

end TestSelection
