import WidgetBuilders.Main
import WidgetBuilders.Proofs.BinaryForm
import WidgetBuilders.Proofs.DeclarationGrammar
import WidgetBuilders.Proofs.DistinctReferences
import WidgetBuilders.Proofs.FactoryReferences
import WidgetBuilders.Proofs.JobPipeline
import WidgetBuilders.Proofs.ReportedFaults
import WidgetBuilders.Proofs.WholeOutput
import WidgetBuilders.Proofs.AddedFiles
import WidgetBuilders.Proofs.LinePlaces
import WidgetBuilders.Proofs.SetterFaults
import WidgetBuilders.Proofs.DeclaredPlaces
import WidgetBuilders.Proofs.PrintedRegistry
import WidgetBuilders.Proofs.InertText
import WidgetBuilders.Proofs.NestedFile
import WidgetBuilders.Proofs.ReportedFailure
import WidgetBuilders.Proofs.FewerFlags
import WidgetBuilders.Proofs.ConcatenatedFiles
import WidgetBuilders.Proofs.OwnNames
import WidgetBuilders.Proofs.SetterResolution
import WidgetBuilders.Proofs.ReorderedClasses
import WidgetBuilders.Proofs.TemplateFaults
import WidgetBuilders.Proofs.InitReceivers
import WidgetBuilders.Proofs.HelperTexts
import WidgetBuilders.Proofs.TemplateSubstitution
import WidgetBuilders.Proofs.FactoryRuns
import WidgetBuilders.Proofs.HelperSelection
import WidgetBuilders.Proofs.ArrayTypes
import WidgetBuilders.Proofs.SharedSetters
import WidgetBuilders.Proofs.HelperOverloads
import WidgetBuilders.Proofs.RepeatedHelpers
import WidgetBuilders.Proofs.PropertyKeys
