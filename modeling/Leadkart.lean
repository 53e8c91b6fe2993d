import Leadkart.Api.PublicChain
import Leadkart.Api.SelfScope
import Leadkart.Common.Cache
import Leadkart.Common.IdempotentRetries
import Leadkart.Common.Money
import Leadkart.Crm.AssignmentHistory
import Leadkart.Crm.IngestReplay
import Leadkart.Crm.LeadOutcome
import Leadkart.Crm.LeadPages
import Leadkart.Crm.LeadPersistence
import Leadkart.Dispatch.CreateConsignment
import Leadkart.Dispatch.StatusTransitions
import Leadkart.Identity.ApproverQueue
import Leadkart.Identity.Bootstrap
import Leadkart.Identity.Lockout
import Leadkart.Identity.PasswordCascade
import Leadkart.Identity.PermissionResolution
import Leadkart.Identity.PersonRepository
import Leadkart.Identity.RefreshFaults
import Leadkart.Identity.RegistrationRecovery
import Leadkart.Identity.RoleForest
import Leadkart.Identity.RoleReplacement
import Leadkart.Identity.TenantDeletion
import Leadkart.Identity.TenantRepository
import Leadkart.Identity.TenantRuns
import Leadkart.Identity.TokenChain
import Leadkart.Identity.TokenFlows
import Leadkart.Inventory.AlertScan
import Leadkart.Inventory.BatchStorage
import Leadkart.Inventory.OrphanedStock
import Leadkart.Inventory.ProductEvents
import Leadkart.Messaging.Inbox
import Leadkart.Orders.DocumentNumber
import Leadkart.Orders.OrderLifecycle
import Leadkart.Orders.Quotation
import Leadkart.Platform.ContactVerification
import Leadkart.Platform.CreditCreation
import Leadkart.Platform.LeadFormStorage
import Leadkart.Platform.MarketplaceBrowse
import Leadkart.Platform.Pricing
import Leadkart.Platform.Sales
import Leadkart.Tasks.Callbacks
import Leadkart.Tasks.TerminalStates
import Leadkart.Tasks.WorkItemRuns
