import WidgetSource.Config
import WidgetSource.Analysis.Diagnosis
import WidgetSource.Generation
import WidgetSource.Proofs.Census
import WidgetSource.Proofs.Constructors
import WidgetSource.Proofs.RuntimeValues
import WidgetSource.Proofs.Brackets
import WidgetSource.Proofs.Indentation
import WidgetSource.Proofs.Unmapped
import WidgetSource.Proofs.Density
import WidgetSource.Proofs.Sources
import WidgetSource.Proofs.ArgumentNames
import WidgetSource.Proofs.Layouts
import WidgetSource.Proofs.Reach
import WidgetSource.Proofs.Congruence
import WidgetSource.Proofs.Levels
import WidgetSource.Proofs.Marks
import WidgetSource.Proofs.Trees
import WidgetSource.Proofs.Tallies
import WidgetSource.Proofs.Placement
import WidgetSource.Proofs.Pruning
import WidgetSource.Proofs.Reordering
import WidgetSource.Proofs.Clearing
import WidgetSource.Proofs.Histories
import WidgetSource.Proofs.Repairs
import WidgetSource.Proofs.Imports
import WidgetSource.Proofs.Respelling
import WidgetSource.Proofs.Descriptions
import WidgetSource.Proofs.Overlays
import WidgetSource.Proofs.Placeholders
import WidgetSource.Proofs.Decoding
import WidgetSource.Proofs.UnsetColors
import WidgetSource.Proofs.Insets
import WidgetSource.Proofs.Colors
import WidgetSource.Proofs.NestedStyles
import WidgetSource.Proofs.FoldedColors
import WidgetSource.Proofs.SharedColumns
import WidgetSource.Proofs.Headers
import WidgetSource.Proofs.Addresses
import WidgetSource.Proofs.IconNames
import WidgetSource.Proofs.TextValues
import WidgetSource.Proofs.MadeNames
